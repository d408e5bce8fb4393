import Mathlib.Algebra.Order.Field.Rat
import Mathlib.Tactic.Ring
import TdsClient.Number.Binary64
import TdsClient.Number.Decimal.Basic
import TdsClient.Proofs.Statement.Call
import TdsClient.Proofs.Statement.Lexing

/-!
# Written numbers read back

Decimal and binary numbers are laid out by different rules, but whatever a
rule makes of the digits of a number is a numeral, and the numeral is read
as that number. A decimal number even keeps its coefficient and its
exponent, so that no two decimal numbers are written the same way, not
those of equal value either. A binary number is written as a decimal of
few digits; zeros that are put behind these change the numeral but not the
number.

## Main definitions

* `Digits.Writes` — digits that stand for a number.

## Main results

* `Decimal.unsigned?_magnitudeText` — the magnitude of a decimal number, read back.
* `Decimal.text_injective` — different decimal numbers are written differently.
* `Binary64.unsigned?_decimalText` — the digits of a binary number, read back.
-/

namespace TdsClient.Number

/-! ## Digits -/

namespace Digits

/-- Digits that stand for a number, zeros in front of it included. -/
structure Writes (digits : List Char) (n : Nat) : Prop where
  ne_nil : digits ≠ []
  isDigit : ∀ c ∈ digits, c.isDigit = true
  value : Nat.ofDigitChars 10 digits 0 = n

theorem toList_text (n : Nat) : (text n).toList = Nat.toDigits 10 n := Nat.toList_repr

theorem writes_text (n : Nat) : Writes (text n).toList n where
  ne_nil := by
    rw [toList_text]
    exact Nat.toDigits_ne_nil
  isDigit := fun c hc => isDigit_of_mem_toString (n := n) hc
  value := by
    rw [toList_text]
    exact Nat.ofDigitChars_ten_toDigits

variable {digits : List Char} {n : Nat}

theorem Writes.length_pos (h : Writes digits n) : 0 < digits.length :=
  List.length_pos_iff.2 h.ne_nil

/-- Zeros in front change nothing. -/
theorem Writes.zeros_append (h : Writes digits n) (count : Nat) :
    Writes (List.replicate count '0' ++ digits) n where
  ne_nil := List.append_ne_nil_of_right_ne_nil _ h.ne_nil
  isDigit c hc := by
    rcases List.mem_append.1 hc with hzero | hdigit
    · rw [List.eq_of_mem_replicate hzero]
      rfl
    · exact h.isDigit c hdigit
  value := by
    rw [Nat.ofDigitChars_append, Nat.ofDigitChars_replicate_zero, Nat.mul_zero, h.value]

/-- Zeros behind are powers of ten. -/
theorem Writes.append_zeros (h : Writes digits n) (count : Nat) :
    Writes (digits ++ List.replicate count '0') (10 ^ count * n) where
  ne_nil := List.append_ne_nil_of_left_ne_nil h.ne_nil _
  isDigit c hc := by
    rcases List.mem_append.1 hc with hdigit | hzero
    · exact h.isDigit c hdigit
    · rw [List.eq_of_mem_replicate hzero]
      rfl
  value := by
    rw [Nat.ofDigitChars_append, Nat.ofDigitChars_replicate_zero, h.value]

theorem writes_padded (width n : Nat) : Writes (padded width n).toList n := by
  unfold padded
  rw [String.toList_append, String.toList_ofList]
  exact (writes_text n).zeros_append _

theorem Writes.parse? (h : Writes digits n) : parse? digits = some n := by
  rw [parse?_of_isDigit h.ne_nil h.isDigit, ← h.value, Digits.value, List.foldl_map]
  rfl

end Digits

/-! ## Numerals -/

namespace Numeral

open Digits

variable {negative : Bool} {digits whole fraction tail : List Char} {n : Nat} {e : Int}

/-- What follows digits and does not go on with them. -/
def NoDigit (tail : List Char) : Prop := ∀ c ∈ tail.head?, c.isDigit = false

theorem takeWhile_digits (hdigits : ∀ c ∈ digits, c.isDigit = true) (htail : NoDigit tail) :
    (digits ++ tail).takeWhile Char.isDigit = digits :=
  (Lexeme.span_exact hdigits htail).1

theorem dropWhile_digits (hdigits : ∀ c ∈ digits, c.isDigit = true) (htail : NoDigit tail) :
    (digits ++ tail).dropWhile Char.isDigit = tail :=
  (Lexeme.span_exact hdigits htail).2

/-- An exponent with its sign is read as it is. -/
theorem exponent?_signed {mark : Char} (hmark : mark = 'e' ∨ mark = 'E')
    (h : Writes digits e.natAbs) :
    exponent? (mark :: (if e < 0 then '-' else '+') :: digits) = some e := by
  by_cases hneg : e < 0
  · simp only [exponent?, if_pos hmark, if_pos hneg, splitSign, h.parse?]
    exact congrArg some (show -(e.natAbs : Int) = e by omega)
  · simp only [exponent?, if_pos hmark, if_neg hneg, splitSign, h.parse?]
    exact congrArg some (show (e.natAbs : Int) = e by omega)

/-- Digits on either side of a point. -/
theorem unsigned?_point (negative : Bool) (h : Writes (whole ++ fraction) n) (htail : NoDigit tail)
    (he : exponent? tail = some e) :
    unsigned? negative (whole ++ '.' :: (fraction ++ tail)) =
      some ⟨negative, n, e - fraction.length⟩ := by
  have hwhole : ∀ c ∈ whole, c.isDigit = true := fun c hc => h.isDigit c (by simp [hc])
  have hfraction : ∀ c ∈ fraction, c.isDigit = true := fun c hc => h.isDigit c (by simp [hc])
  have hpoint : NoDigit ('.' :: (fraction ++ tail)) := by
    rintro c ⟨⟩
    rfl
  simp only [unsigned?, takeWhile_digits hwhole hpoint, dropWhile_digits hwhole hpoint,
    takeWhile_digits hfraction htail, dropWhile_digits hfraction htail, h.parse?, he]

/-- Digits without a point. -/
theorem unsigned?_whole (negative : Bool) (h : Writes whole n) (htail : NoDigit tail)
    (hpoint : tail.head? ≠ some '.') (he : exponent? tail = some e) :
    unsigned? negative (whole ++ tail) = some ⟨negative, n, e⟩ := by
  simp only [unsigned?, takeWhile_digits h.isDigit htail, dropWhile_digits h.isDigit htail]
  cases tail with
  | nil => simp [h.parse?, he]
  | cons c rest =>
      have hc : c ≠ '.' := fun heq => hpoint (congrArg some heq)
      simp [hc, h.parse?, he]

theorem noDigit_nil : NoDigit [] := nofun

/-- A point among digits. -/
theorem unsigned?_split (h : Writes digits n) {count : Nat} (hcount : count ≤ digits.length) :
    unsigned? negative (digits.take count ++ '.' :: digits.drop count) =
      some ⟨negative, n, count - digits.length⟩ := by
  have hparts : Writes (digits.take count ++ digits.drop count) n := by
    rwa [List.take_append_drop]
  have hread := unsigned?_point negative hparts noDigit_nil (e := 0) rfl
  rw [List.append_nil] at hread
  rw [hread, List.length_drop]
  exact congrArg (fun e => some (Numeral.mk negative n e)) (by omega)

/-- A point and zeros in front of digits. -/
theorem unsigned?_leading (h : Writes digits n) (zeros : Nat) :
    unsigned? negative ('0' :: '.' :: (List.replicate zeros '0' ++ digits)) =
      some ⟨negative, n, -(zeros + digits.length)⟩ := by
  have hparts : Writes (['0'] ++ (List.replicate zeros '0' ++ digits)) n :=
    (h.zeros_append zeros).zeros_append 1
  have hread := unsigned?_point negative hparts noDigit_nil (e := 0) rfl
  rw [List.append_nil] at hread
  refine hread.trans (congrArg (fun e => some (Numeral.mk negative n e)) ?_)
  rw [List.length_append, List.length_replicate]
  omega

/-- One digit in front of the point, if any are behind it, and an exponent. -/
theorem unsigned?_scientific (h : Writes digits n) {mark : Char} (hmark : mark = 'e' ∨ mark = 'E')
    {power : List Char} (hpower : Writes power e.natAbs) :
    unsigned? negative (digits.take 1 ++ ((if (digits.drop 1).isEmpty then []
      else '.' :: digits.drop 1) ++ mark :: (if e < 0 then '-' else '+') :: power)) =
      some ⟨negative, n, e - (digits.length - 1)⟩ := by
  have hread := exponent?_signed hmark hpower
  have htail : NoDigit (mark :: (if e < 0 then '-' else '+') :: power) := by
    rintro c ⟨⟩
    rcases hmark with rfl | rfl <;> rfl
  have hpos := h.length_pos
  cases hrest : digits.drop 1 with
  | nil =>
      have hone : digits.length = 1 := by
        have hlength := congrArg List.length hrest
        rw [List.length_drop, List.length_nil] at hlength
        omega
      have hpoint : (mark :: (if e < 0 then '-' else '+') :: power).head? ≠ some '.' := by
        rcases hmark with rfl | rfl <;> simp
      rw [List.take_of_length_le (Nat.le_of_eq hone)]
      refine (unsigned?_whole negative h htail hpoint hread).trans
        (congrArg (fun e => some (Numeral.mk negative n e)) ?_)
      omega
  | cons d rest =>
      have hparts : Writes (digits.take 1 ++ d :: rest) n := by
        rwa [← hrest, List.take_append_drop]
      refine (unsigned?_point negative hparts htail hread).trans
        (congrArg (fun e => some (Numeral.mk negative n e)) ?_)
      rw [← hrest, List.length_drop]
      omega

/-- What is read as a numeral begins with a digit or a point. -/
theorem isDigit_or_of_unsigned? {c : Char} {rest : List Char} {numeral : Numeral}
    (h : unsigned? negative (c :: rest) = some numeral) : c.isDigit = true ∨ c = '.' := by
  by_contra hc
  rw [not_or, Bool.not_eq_true] at hc
  have hnone : Digits.parse? [] = none := rfl
  simp [unsigned?, hc.1, hc.2, hnone] at h

theorem head_ne_of_unsigned? {c : Char} {text : List Char} {numeral : Numeral}
    (h : unsigned? negative text = some numeral) (hc : c.isDigit = false) (hpoint : c ≠ '.') :
    text.head? ≠ some c := by
  intro hhead
  obtain ⟨rest, rfl⟩ := List.head?_eq_some_iff.1 hhead
  rcases isDigit_or_of_unsigned? h with hdigit | hdot
  · rw [hc] at hdigit
    cases hdigit
  · exact hpoint hdot

/-- A sign in front of a text that has none can be told from the text. -/
theorem signed_inj {b b' : Bool} {s t : String} (hs : s.toList.head? ≠ some '-')
    (ht : t.toList.head? ≠ some '-')
    (h : (if b then "-" else "") ++ s = (if b' then "-" else "") ++ t) : b = b' ∧ s = t := by
  have hlist := congrArg String.toList h
  rw [String.toList_append, String.toList_append] at hlist
  cases b <;> cases b' <;> simp at hlist
  · exact ⟨rfl, String.toList_inj.1 hlist⟩
  · rw [hlist] at hs
    exact absurd rfl hs
  · rw [← hlist] at ht
    exact absurd rfl ht
  · exact ⟨rfl, String.toList_inj.1 hlist⟩

theorem toList_fraction (digits : List Char) :
    (if digits.isEmpty then "" else "." ++ String.ofList digits).toList =
      if digits.isEmpty then [] else '.' :: digits := by
  split
  · rfl
  · simp

theorem toList_sign (e : Int) :
    (if e < 0 then "-" else "+").toList = [if e < 0 then '-' else '+'] := by
  split <;> rfl

end Numeral

/-! ## Decimal numbers -/

namespace Decimal

open Digits

/-- A magnitude keeps its coefficient and its exponent. -/
theorem unsigned?_magnitudeText (negative : Bool) (coefficient : Nat) (exponent : Int) :
    Numeral.unsigned? negative (magnitudeText coefficient exponent).toList =
      some ⟨negative, coefficient, exponent⟩ := by
  have h := writes_text coefficient
  have hpos := h.length_pos
  have hlength : (Digits.text coefficient).length = (Digits.text coefficient).toList.length :=
    String.length_toList.symm
  have hexponent : ∀ e : Int, e = exponent → some (Numeral.mk negative coefficient e) =
      some ⟨negative, coefficient, exponent⟩ := by
    rintro e rfl
    rfl
  unfold magnitudeText
  dsimp only
  rw [hlength]
  split
  next =>
    split
    next hzero =>
      have hread := Numeral.unsigned?_whole negative h Numeral.noDigit_nil (by simp) (e := 0) rfl
      rw [List.append_nil] at hread
      exact hread.trans (hexponent 0 hzero.symm)
    next =>
      split
      next =>
        simp only [String.toList_append, String.toList_ofList, List.append_assoc]
        exact (Numeral.unsigned?_split h (by omega)).trans (hexponent _ (by omega))
      next =>
        simp only [String.toList_append, String.toList_ofList, List.append_assoc]
        exact (Numeral.unsigned?_leading h _).trans (hexponent _ (by omega))
  next =>
    simp only [String.toList_append, String.toList_ofList, Numeral.toList_sign,
      Numeral.toList_fraction, List.append_assoc]
    exact (Numeral.unsigned?_scientific h (.inr rfl) (writes_text _)).trans
      (hexponent _ (by omega))

/-- A number without its sign. -/
def unsignedText : Decimal → String
  | .finite _ coefficient exponent => magnitudeText coefficient exponent
  | .infinite _ => "Infinity"
  | .nan _ signaling payload =>
    (if signaling then "sNaN" else "NaN") ++ (if payload = 0 then "" else Digits.text payload)

/-- Whether a number is written with a minus sign. -/
def isNegative : Decimal → Bool
  | .finite negative _ _ => negative
  | .infinite negative => negative
  | .nan negative _ _ => negative

theorem text_eq (d : Decimal) : d.text = (if d.isNegative then "-" else "") ++ d.unsignedText := by
  cases d with
  | finite negative coefficient exponent => rfl
  | infinite negative => rfl
  | nan negative signaling payload => exact String.append_assoc ..

theorem head_magnitudeText (coefficient : Nat) (exponent : Int) {c : Char}
    (hc : c.isDigit = false) (hpoint : c ≠ '.') :
    (magnitudeText coefficient exponent).toList.head? ≠ some c :=
  Numeral.head_ne_of_unsigned? (unsigned?_magnitudeText false coefficient exponent) hc hpoint

theorem magnitudeText_injective {c c' : Nat} {e e' : Int}
    (h : magnitudeText c e = magnitudeText c' e') : c = c' ∧ e = e' := by
  have hread := unsigned?_magnitudeText false c e
  rw [h, unsigned?_magnitudeText] at hread
  cases hread
  exact ⟨rfl, rfl⟩

/-- What follows the mark of a NaN tells its payload. -/
theorem payload_injective {p p' : Nat}
    (h : (if p = 0 then "" else Digits.text p) = if p' = 0 then "" else Digits.text p') :
    p = p' := by
  have hne : ∀ n, Digits.text n ≠ "" := fun n hempty => (writes_text n).ne_nil (by simp [hempty])
  by_cases hp : p = 0 <;> by_cases hp' : p' = 0 <;> simp only [hp, hp', if_true, if_false] at h
  · rw [hp, hp']
  · exact absurd h.symm (hne p')
  · exact absurd h (hne p)
  · exact numeral_injective h

/-- What is no finite number is written in letters. -/
theorem head_unsignedText {d : Decimal} (hd : d.isFinite = false) :
    ∃ c, d.unsignedText.toList.head? = some c ∧ c.isDigit = false ∧ c ≠ '.' := by
  cases d with
  | finite negative coefficient exponent => cases hd
  | infinite negative => exact ⟨'I', by simp [unsignedText], rfl, by decide⟩
  | nan negative signaling payload =>
      refine ⟨if signaling then 's' else 'N', ?_, ?_⟩
      · unfold unsignedText
        cases signaling <;> simp
      · cases signaling <;> decide

theorem isFinite_of_unsignedText {a b : Decimal} (h : a.unsignedText = b.unsignedText)
    (ha : a.isFinite = true) : b.isFinite = true := by
  cases a with
  | finite negative coefficient exponent =>
      rw [← Bool.not_eq_false]
      intro hb
      obtain ⟨c, hhead, hdigit, hpoint⟩ := head_unsignedText hb
      rw [← h] at hhead
      exact head_magnitudeText coefficient exponent hdigit hpoint hhead
  | infinite negative => cases ha
  | nan negative signaling payload => cases ha

theorem unsignedText_injective {a b : Decimal} (hsign : a.isNegative = b.isNegative)
    (h : a.unsignedText = b.unsignedText) : a = b := by
  have hforth := isFinite_of_unsignedText h
  have hback := isFinite_of_unsignedText h.symm
  cases a with
  | finite negative coefficient exponent =>
      cases b with
      | finite negative' coefficient' exponent' =>
          cases hsign
          obtain ⟨rfl, rfl⟩ := magnitudeText_injective h
          rfl
      | infinite negative' => cases hforth rfl
      | nan negative' signaling' payload' => cases hforth rfl
  | infinite negative =>
      cases b with
      | finite negative' coefficient' exponent' => cases hback rfl
      | infinite negative' =>
          cases hsign
          rfl
      | nan negative' signaling' payload' =>
          cases signaling' <;> simp [unsignedText, String.ext_iff] at h
  | nan negative signaling payload =>
      cases b with
      | finite negative' coefficient' exponent' => cases hback rfl
      | infinite negative' => cases signaling <;> simp [unsignedText, String.ext_iff] at h
      | nan negative' signaling' payload' =>
          cases hsign
          have hpayload : signaling = signaling' ∧ payload = payload' := by
            cases signaling <;> cases signaling' <;> simp only [unsignedText] at h
            · exact ⟨rfl, payload_injective ((String.append_right_inj _).1 h)⟩
            · simp [String.ext_iff] at h
            · simp [String.ext_iff] at h
            · exact ⟨rfl, payload_injective ((String.append_right_inj _).1 h)⟩
          obtain ⟨rfl, rfl⟩ := hpayload
          rfl

/-- Different decimal numbers are written differently, those of the same value included. -/
theorem text_injective {a b : Decimal} (h : a.text = b.text) : a = b := by
  have hhead : ∀ d : Decimal, d.unsignedText.toList.head? ≠ some '-' := by
    intro d
    cases d with
    | finite negative coefficient exponent => exact head_magnitudeText _ _ rfl (by decide)
    | infinite negative => simp [unsignedText]
    | nan negative signaling payload => cases signaling <;> simp [unsignedText]
  rw [text_eq, text_eq] at h
  obtain ⟨hsign, htext⟩ := Numeral.signed_inj (hhead a) (hhead b) h
  exact unsignedText_injective hsign htext

end Decimal

/-! ## Binary numbers -/

namespace Binary64

open Digits

/-- The digits of a number are read as that number, if not as the same numeral. -/
theorem unsigned?_decimalText (negative : Bool) (n : Nat) (grid : Int) :
    ∃ (coefficient : Nat) (exponent : Int),
      Numeral.unsigned? negative (decimalText n grid).toList =
        some ⟨negative, coefficient, exponent⟩ ∧
      (coefficient : ℚ) * 10 ^ exponent = n * 10 ^ grid := by
  have h := writes_text n
  have hpos := h.length_pos
  have hlength : (Digits.text n).length = (Digits.text n).toList.length :=
    String.length_toList.symm
  have hexact : ∀ e : Int, e = grid → (n : ℚ) * 10 ^ e = n * 10 ^ grid := by
    rintro e rfl
    rfl
  unfold decimalText
  dsimp only
  rw [hlength]
  split
  next =>
    split
    next hgrid =>
      have hparts : Writes (((Digits.text n).toList ++ List.replicate grid.toNat '0') ++ ['0'])
          (10 ^ 1 * (10 ^ grid.toNat * n)) := (h.append_zeros _).append_zeros 1
      have hread := Numeral.unsigned?_point negative hparts Numeral.noDigit_nil (e := 0) rfl
      have hlayout : ((Digits.text n) ++ String.ofList (List.replicate grid.toNat '0') ++
          ".0").toList = ((Digits.text n).toList ++ List.replicate grid.toNat '0') ++
            '.' :: (['0'] ++ []) := by
        rw [String.toList_append, String.toList_append, String.toList_ofList]
        rfl
      refine ⟨_, _, (congrArg _ hlayout).trans hread, ?_⟩
      have hpower : (10 : ℚ) ^ grid = 10 ^ grid.toNat := by
        rw [← zpow_natCast, Int.toNat_of_nonneg hgrid]
      rw [hpower, List.length_singleton]
      push_cast
      rw [zpow_neg_one]
      ring
    next =>
      split
      next =>
        simp only [String.toList_append, String.toList_ofList, List.append_assoc]
        exact ⟨_, _, Numeral.unsigned?_split h (by omega), hexact _ (by omega)⟩
      next =>
        simp only [String.toList_append, String.toList_ofList, List.append_assoc]
        exact ⟨_, _, Numeral.unsigned?_leading h _, hexact _ (by omega)⟩
  next =>
    simp only [String.toList_append, String.toList_ofList, Numeral.toList_sign,
      Numeral.toList_fraction, List.append_assoc]
    exact ⟨_, _, Numeral.unsigned?_scientific h (.inl rfl) (writes_padded 2 _),
      hexact _ (by omega)⟩

theorem head_decimalText (n : Nat) (grid : Int) :
    (decimalText n grid).toList.head? ≠ some '-' := by
  obtain ⟨coefficient, exponent, hread, -⟩ := unsigned?_decimalText false n grid
  exact Numeral.head_ne_of_unsigned? hread rfl (by decide)

/-- A digit, or one of the marks between digits. -/
def IsNumeric (c : Char) : Prop := c.isDigit = true ∨ c ∈ ['.', 'e', '+', '-']

theorem isNumeric_decimalText (n : Nat) (grid : Int) :
    ∀ c ∈ (decimalText n grid).toList, IsNumeric c := by
  have hdigits : ∀ c ∈ (Digits.text n).toList, IsNumeric c :=
    fun c hc => .inl ((writes_text n).isDigit c hc)
  have hzeros : ∀ k, ∀ c ∈ List.replicate k '0', IsNumeric c := by
    intro k c hc
    rw [List.eq_of_mem_replicate hc]
    exact .inl rfl
  have hpower : ∀ k, ∀ c ∈ (padded 2 k).toList, IsNumeric c :=
    fun k c hc => .inl ((writes_padded 2 k).isDigit c hc)
  have hpoint : IsNumeric '.' := .inr (by decide)
  have hfraction : ∀ c ∈ '.' :: (Digits.text n).toList.drop 1, IsNumeric c :=
    List.forall_mem_cons.2 ⟨hpoint, fun c hc => hdigits c (List.mem_of_mem_drop hc)⟩
  have hsign : ∀ e : Int, ∀ c ∈ [if e < 0 then '-' else '+'], IsNumeric c := by
    intro e c hc
    rw [List.mem_singleton.1 hc]
    split <;> exact .inr (by decide)
  have hmark : ∀ c ∈ "e".toList, IsNumeric c := by simp [IsNumeric]
  unfold decimalText
  dsimp only
  split
  · split
    · simp only [String.toList_append, String.toList_ofList, List.forall_mem_append]
      exact ⟨⟨hdigits, hzeros _⟩, by simp [IsNumeric]⟩
    · split
      · simp only [String.toList_append, String.toList_ofList, List.forall_mem_append]
        exact ⟨⟨fun c hc => hdigits c (List.mem_of_mem_take hc), by simp [IsNumeric]⟩,
          fun c hc => hdigits c (List.mem_of_mem_drop hc)⟩
      · simp only [String.toList_append, String.toList_ofList, List.forall_mem_append]
        exact ⟨⟨by simp [IsNumeric], hzeros _⟩, hdigits⟩
  · simp only [String.toList_append, String.toList_ofList, Numeral.toList_sign,
      Numeral.toList_fraction, List.forall_mem_append]
    refine ⟨⟨⟨⟨fun c hc => hdigits c (List.mem_of_mem_take hc), ?_⟩, hmark⟩, hsign _⟩, hpower _⟩
    split
    · exact nofun
    · exact hfraction

/-- The digits of a binary number are no integer. -/
theorem mark_mem_decimalText (n : Nat) (grid : Int) :
    '.' ∈ (decimalText n grid).toList ∨ 'e' ∈ (decimalText n grid).toList := by
  unfold decimalText
  dsimp only
  split
  · refine .inl ?_
    split
    · simp
    · split <;> simp
  · refine .inr ?_
    simp

end Binary64

end TdsClient.Number
