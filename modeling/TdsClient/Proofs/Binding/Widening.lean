import TdsClient.Proofs.Binding.Soundness

/-!
# Types without minimisation

A value can be bound with the narrowest type of its family or with the
widest one. The choice concerns the declaration only: what is refused, what
is reported and what is sent are the same. The widest type holds whatever
the narrowest holds. Wrapped values and values of a kind that has one type
only are declared alike.

## Main definitions

* `SqlType.Family`, `Inference.widest` — families of types, and the widest type of each.
* `Inference.AgreeUpTo` — outcomes that differ in the type only.
* `Inference.Widens` — how the types differ.

## Main results

* `bind_widens` — both ways to bind a value agree up to the width of the type.
-/

namespace TdsClient

open Number

/-- What types of different widths have in common. -/
inductive SqlType.Family
  | bit
  | integer
  | float
  | money
  | decimal
  | moment
  | codePageText
  | nationalText
  | binary
  | identifier
  | variant
  | xml
deriving DecidableEq

/-- The family of a type. -/
def SqlType.family : SqlType → SqlType.Family
  | .bit => .bit
  | .tinyInt | .smallInt | .int | .bigInt => .integer
  | .real | .float => .float
  | .smallMoney | .money => .money
  | .decimal .. => .decimal
  | .smallDateTime | .dateTime | .date | .time _ | .dateTime2 _ | .dateTimeOffset _ => .moment
  | .char _ | .varChar _ | .varCharMax | .text => .codePageText
  | .nchar _ | .nvarChar _ | .nvarCharMax | .ntext => .nationalText
  | .binary _ | .varBinary _ | .varBinaryMax | .image => .binary
  | .uniqueIdentifier => .identifier
  | .variant => .variant
  | .xml => .xml

/-- A value of a kind for which there are types of several widths. -/
def Value.HasWidths : Value → Prop
  | .int _ => True
  | .decimal _ => True
  | .bytes _ => True
  | .byteArray _ => True
  | .memoryView _ => True
  | .text _ => True
  | _ => False

namespace Inference

variable (i : Inference)

/-- The widest type that values of a type can be sent with: integers of 64 bits, the same places of
a decimal number and as many digits as there can be, strings without bound. -/
def widest : SqlType → SqlType
  | .tinyInt | .smallInt | .int | .bigInt => .bigInt
  | .decimal _ scale => .decimal 38 scale
  | .varBinary _ | .varBinaryMax | .image => i.longBinary
  | .varChar _ | .varCharMax | .text => i.longText
  | .nvarChar _ | .nvarCharMax | .ntext => i.longNationalText
  | type => type

/-- A type admits null and what it holds. -/
def Admits (type : SqlType) (sent : Value) : Prop := sent = .null ∨ i.Holds type sent

/-- Two outcomes that differ in the type only: the same warnings in the same order, and the same
error, or the same value of the same size with types that are related. -/
structure AgreeUpTo (related : SqlType → SqlType → Prop) (x y : Reported Bound) : Prop where
  warnings : x.warnings = y.warnings
  result : (∃ e, x.result = .error e ∧ y.result = .error e) ∨
    ∃ b b', x.result = .ok b ∧ y.result = .ok b' ∧ b.value = b'.value ∧ b.size = b'.size ∧
      related b.type b'.type

/-- How the types of a value differ: the wide one is of the same family and admits what the narrow
one admits. It is the widest there is if the value is of a kind that has types of several widths,
and the same one otherwise. -/
structure Widens (v : Value) (narrow wide : SqlType) : Prop where
  family : wide.family = narrow.family
  admits : ∀ sent, i.Admits narrow sent → i.Admits wide sent
  widest : v.HasWidths → wide = i.widest narrow
  same : ¬ v.HasWidths → wide = narrow

/-! ## Outcomes that agree -/

section agreement

variable {related : SqlType → SqlType → Prop}

theorem agree_pure {b b' : Bound} (hvalue : b.value = b'.value) (hsize : b.size = b'.size)
    (htype : related b.type b'.type) : AgreeUpTo related (pure b) (pure b') :=
  ⟨rfl, .inr ⟨b, b', rfl, rfl, hvalue, hsize, htype⟩⟩

theorem agree_fail (e : Error) : AgreeUpTo related (.fail e) (.fail e) :=
  ⟨rfl, .inl ⟨e, rfl, rfl⟩⟩

/-- Outcomes after a common first step agree if those of the second step do. -/
theorem agree_bind {α : Type} (x : Reported α) {f g : α → Reported Bound}
    (h : ∀ a, x.result = .ok a → AgreeUpTo related (f a) (g a)) :
    AgreeUpTo related (x >>= f) (x >>= g) := by
  cases hx : x.result with
  | error e =>
      rw [Reported.bind_error f hx, Reported.bind_error g hx]
      exact ⟨rfl, .inl ⟨e, rfl, rfl⟩⟩
  | ok a =>
      obtain ⟨hwarnings, hresult⟩ := h a hx
      rw [Reported.bind_ok f hx, Reported.bind_ok g hx]
      exact ⟨congrArg (x.warnings ++ ·) hwarnings, hresult⟩

/-- An outcome agrees with itself. -/
theorem agree_refl (hrefl : ∀ type, related type type) (x : Reported Bound) :
    AgreeUpTo related x x := by
  refine ⟨rfl, ?_⟩
  cases hx : x.result with
  | error e => exact .inl ⟨e, rfl, rfl⟩
  | ok b => exact .inr ⟨b, b, rfl, rfl, rfl, rfl, hrefl b.type⟩

end agreement

/-! ## Widest types -/

theorem widest_longBinary : i.widest i.longBinary = i.longBinary := by
  unfold longBinary
  by_cases hmax : i.version.hasMax = true
  · rw [if_pos hmax]
    exact if_pos hmax
  · rw [if_neg hmax]
    exact if_neg hmax

theorem widest_longNationalText : i.widest i.longNationalText = i.longNationalText := by
  unfold longNationalText
  by_cases hmax : i.version.hasMax = true
  · rw [if_pos hmax]
    exact if_pos hmax
  · rw [if_neg hmax]
    exact if_neg hmax

/-- Every integer type has the same widest type. -/
theorem widest_integerType (n : Int) : i.widest (integerType n) = .bigInt := by
  unfold integerType
  by_cases htiny : IntegerWidth.tiny.holds n = true
  · rw [if_pos htiny]
    rfl
  · rw [if_neg htiny]
    by_cases hsmall : IntegerWidth.small.holds n = true
    · rw [if_pos hsmall]
      rfl
    · rw [if_neg hsmall]
      by_cases hregular : IntegerWidth.regular.holds n = true
      · rw [if_pos hregular]
        rfl
      · rw [if_neg hregular]
        rfl

theorem widest_boundBinary (value : Value) (size : Nat) :
    i.widest (i.boundBinary value size).type = i.longBinary := by
  unfold boundBinary
  by_cases hsize : maxSize < size
  · rw [if_pos hsize]
    exact i.widest_longBinary
  · rw [if_neg hsize]
    rfl

theorem widest_boundText (value : Value) (size : Nat) :
    i.widest (boundText value size).type = i.longText := by
  unfold boundText
  by_cases hsize : maxSize < size
  · rw [if_pos hsize]
    rfl
  · rw [if_neg hsize]
    rfl

theorem widest_boundNationalText (value : Value) (size : Nat) :
    i.widest (i.boundNationalText value size).type = i.longNationalText := by
  unfold boundNationalText
  by_cases hsize : maxNationalSize < size
  · rw [if_pos hsize]
    exact i.widest_longNationalText
  · rw [if_neg hsize]
    rfl

/-- Byte strings without bound are byte strings, and admit all of them. -/
theorem longBinary_wide :
    i.longBinary.family = .binary ∧ ∀ b, i.Holds i.longBinary (.bytes b) := by
  unfold longBinary
  split
  · exact ⟨rfl, fun _ => trivial⟩
  · exact ⟨rfl, fun _ => trivial⟩

/-- Text without bound is text of the code page, and admits all that the code page has. -/
theorem longText_wide :
    i.longText.family = .codePageText ∧
      ∀ s, (i.charset.encodeText? s).isSome = true → i.Holds i.longText (.text s) := by
  unfold longText
  split
  · exact ⟨rfl, fun _ h => h⟩
  · exact ⟨rfl, fun _ h => h⟩

/-- National text without bound is national text, and admits all text. -/
theorem longNationalText_wide :
    i.longNationalText.family = .nationalText ∧ ∀ s, i.Holds i.longNationalText (.text s) := by
  unfold longNationalText
  split
  · exact ⟨rfl, fun _ => trivial⟩
  · exact ⟨rfl, fun _ => trivial⟩

/-- The widest type of a family is one of it. -/
theorem family_widest (type : SqlType) : (i.widest type).family = type.family := by
  cases type with
  | varBinary | varBinaryMax | image => exact i.longBinary_wide.1
  | varChar | varCharMax | text => exact i.longText_wide.1
  | nvarChar | nvarCharMax | ntext => exact i.longNationalText_wide.1
  | _ => rfl

/-- An integer of any width is one of 64 bits. -/
theorem holds_bigInt {low high : Int} (hlow : -2 ^ 63 ≤ low) (hhigh : high ≤ 2 ^ 63) {n : Int}
    (h : low ≤ n ∧ n < high) : i.Holds .bigInt (.int n) :=
  ⟨hlow.trans h.1, h.2.trans_le hhigh⟩

/-- The widest type holds what a type holds, apart from null. -/
theorem holds_widest {type : SqlType} (htype : type.InBounds) {sent : Value} (hsent : sent ≠ .null)
    (h : i.Holds type sent) : i.Holds (i.widest type) sent := by
  cases type with
  | tinyInt =>
      cases sent with
      | int n => exact i.holds_bigInt (by decide) (by decide) h
      | _ => exact h.elim
  | smallInt =>
      cases sent with
      | int n => exact i.holds_bigInt (by decide) (by decide) h
      | _ => exact h.elim
  | int =>
      cases sent with
      | int n => exact i.holds_bigInt (by decide) (by decide) h
      | _ => exact h.elim
  | decimal precision scale =>
      cases sent with
      | decimal d =>
          obtain ⟨q, hq, hplaces, hdigits⟩ := h
          have hmore : precision - scale ≤ 38 - scale := Nat.sub_le_sub_right htype.2.1 scale
          exact ⟨q, hq, hplaces, hdigits.trans_le (pow_le_pow_right₀ (by norm_num) hmore)⟩
      | _ => exact h.elim
  | varBinary | varBinaryMax | image =>
      cases sent with
      | bytes b => exact i.longBinary_wide.2 b
      | _ => exact h.elim
  | varChar size =>
      cases sent with
      | null => exact absurd rfl hsent
      | text s =>
          obtain ⟨bytes, hbytes, -⟩ := h
          exact i.longText_wide.2 s (Option.isSome_of_eq_some hbytes)
      | _ => exact h.elim
  | varCharMax | text =>
      cases sent with
      | text s => exact i.longText_wide.2 s h
      | _ => exact h.elim
  | nvarChar | nvarCharMax | ntext =>
      cases sent with
      | text s => exact i.longNationalText_wide.2 s
      | _ => exact h.elim
  | _ => exact h

/-- The widest type admits what a type admits. -/
theorem admits_widest {type : SqlType} (htype : type.InBounds) {sent : Value}
    (h : i.Admits type sent) : i.Admits (i.widest type) sent := by
  by_cases hsent : sent = .null
  · exact .inl hsent
  · exact .inr (i.holds_widest htype hsent (h.resolve_left hsent))

/-! ## Kinds of values -/

/-- The widest type widens the type of a value with types of several widths. -/
theorem widens_widest {v : Value} (hv : v.HasWidths) {narrow wide : SqlType}
    (hnarrow : narrow.InBounds) (hwide : i.widest narrow = wide) : i.Widens v narrow wide := by
  subst hwide
  exact ⟨i.family_widest narrow, fun _ => i.admits_widest hnarrow, fun _ => rfl,
    fun h => absurd hv h⟩

/-- A value without such types is declared alike. -/
theorem widens_refl {v : Value} (hv : ¬ v.HasWidths) (type : SqlType) : i.Widens v type type :=
  ⟨rfl, fun _ h => h, fun h => absurd h hv, fun _ => rfl⟩

theorem agree_int (n : Int) :
    AgreeUpTo (i.Widens (.int n)) (bindInt true n) (bindInt false n) := by
  have hbounds := (i.sound_int true n).inBounds
  unfold bindInt at hbounds ⊢
  by_cases h : IntegerWidth.big.holds n = true
  · rw [h] at hbounds ⊢
    exact agree_pure rfl rfl
      (i.widens_widest (v := .int n) trivial (hbounds _ rfl) (i.widest_integerType n))
  · rw [Bool.not_eq_true] at h
    rw [h]
    exact agree_fail _

theorem agree_bytes {v : Value} (hv : v.HasWidths) (b : Bytes) :
    AgreeUpTo (i.Widens v) (pure (i.bindBytes true b)) (pure (i.bindBytes false b)) := by
  have hbounds := (i.sound_bytes true b (v := .bytes b) rfl rfl
    (not_refused trivial id)).inBounds _ rfl
  exact agree_pure rfl rfl (i.widens_widest hv hbounds (i.widest_boundBinary (.bytes b) b.length))

/-- Text of a size that a type can have. -/
theorem boundText_inBounds (value : Value) (size : Nat) : (boundText value size).type.InBounds := by
  unfold boundText
  by_cases hsize : maxSize < size
  · rw [if_pos hsize]
    trivial
  · rw [if_neg hsize]
    have hmax : size ≤ 8000 := Nat.le_of_not_lt hsize
    exact ⟨Nat.le_max_right _ _, by omega⟩

theorem agree_text (s : String) :
    AgreeUpTo (i.Widens (.text s)) (i.bindText true s) (i.bindText false s) := by
  cases hnational : i.nationalText with
  | true =>
      have hbounds := (i.sound_nationalText hnational true s).inBounds
      unfold bindText at hbounds ⊢
      rw [hnational] at hbounds ⊢
      exact agree_pure rfl rfl (i.widens_widest (v := .text s) trivial (hbounds _ rfl)
        (i.widest_boundNationalText (.text s) (Text.Utf16.length s)))
  | false =>
      unfold bindText
      rw [hnational]
      refine agree_bind (i.encodeText s) fun (kept, size) _ => ?_
      exact agree_pure rfl rfl (i.widens_widest (v := .text s) trivial
        (boundText_inBounds (.text kept) size) (i.widest_boundText (.text kept) size))

/-- The precision and scale of a number are those of a type. -/
theorem inBounds_of_decimalShape {d : Decimal} {precision scale : Nat}
    (h : (decimalShape d).result = .ok (precision, scale)) :
    (SqlType.decimal precision scale).InBounds := by
  cases d with
  | infinite negative => cases h
  | nan negative signaling payload => cases h
  | finite negative coefficient exponent =>
      by_cases hdigits : integerDigits coefficient exponent + fractionDigits exponent ≤ 38
      · rw [decimalShape_of_le negative hdigits] at h
        cases h
        exact ⟨by omega, by omega, by omega⟩
      · by_cases hwhole : 38 < integerDigits coefficient exponent
        · rw [decimalShape_of_wide negative hwhole] at h
          cases h
        · have hscale : integerDigits coefficient exponent +
              (38 - integerDigits coefficient exponent) = 38 := by omega
          rw [decimalShape_of_lt negative hscale (by omega)] at h
          cases h
          exact ⟨by omega, by omega, by omega⟩

theorem agree_decimal (d : Decimal) :
    AgreeUpTo (i.Widens (.decimal d)) (bindDecimal true d) (bindDecimal false d) := by
  refine agree_bind (decimalShape d) fun (precision, scale) hshape => ?_
  show AgreeUpTo _ (bindDecimalAs d precision scale) (bindDecimalAs d maxPrecision scale)
  have hbounds := inBounds_of_decimalShape hshape
  unfold bindDecimalAs
  cases d.quantize? maxPrecision scale with
  | none => exact agree_fail _
  | some rounded =>
      exact agree_pure rfl rfl (i.widens_widest (v := .decimal d) trivial hbounds rfl)

/-- Both ways to bind a value, wrapped or not, agree up to the width of the type: they fail with the
same error, or send the same value of the same size, and report the same warnings. The wide type is
of the same family and admits what the narrow one does. -/
theorem bind_widens (v : Value) : AgreeUpTo (i.Widens v) (i.bind true v) (i.bind false v) := by
  cases v with
  | int n => exact i.agree_int n
  | decimal d => exact i.agree_decimal d
  | bytes b => exact i.agree_bytes (v := .bytes b) trivial b
  | byteArray b => exact i.agree_bytes (v := .byteArray b) trivial b
  | memoryView b => exact i.agree_bytes (v := .memoryView b) trivial b
  | text s => exact i.agree_text s
  | _ => exact agree_refl (i.widens_refl id) _

end Inference

end TdsClient
