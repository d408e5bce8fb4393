import Mathlib.Data.List.TakeDrop
import TdsClient.Proofs.Connection.BulkRow
import TdsClient.Proofs.Text.Surrogate

/-!
# Wrapped values as parameters and in rows

A wrapped value can be sent in two ways. As a parameter it is cut, rounded
or converted as its wrapper says. In a row that is copied into a table it is
only taken out of the wrapper, so that of text the characters that the code
page does not have are replaced, and the rest is left to the column. What
the wrapper says makes the whole difference.

## Main definitions

* `Inference.AsWrapped` — a value of which its wrapper leaves everything as it is.
* `Inference.conformed` — what a wrapper makes of a value.

## Main results

* `sentCell_typed` — what is sent in a row.
* `value_bindTyped` — as a parameter, what the wrapper makes of that.
* `sentCell_eq_bound_iff` — when the two are the same.
-/

namespace TdsClient

open Number Text

/-! ## Rounding -/

namespace Number.Decimal

/-- A number that is rounded stays the same if it has the digits behind the point already, and only
then. -/
theorem quantize?_eq_self_iff {precision scale : Nat} {d rounded : Decimal}
    (hrounded : d.quantize? precision scale = some rounded) :
    d = rounded ↔ ∃ negative coefficient, d = .finite negative coefficient (-scale) := by
  cases d with
  | finite negative coefficient exponent =>
      unfold quantize? at hrounded
      dsimp only at hrounded
      by_cases hzero : coefficient = 0
      · rw [if_pos hzero] at hrounded
        cases hrounded
        constructor
        · intro hsame
          exact ⟨_, _, hsame⟩
        · rintro ⟨_, _, hsame⟩
          cases hsame
          rw [hzero]
      · rw [if_neg hzero] at hrounded
        by_cases hlarge : (precision : Int) < Digits.digitCount coefficient + (exponent + scale)
        · rw [if_pos hlarge] at hrounded
          cases hrounded
        · rw [if_neg hlarge] at hrounded
          by_cases hcarry : precision <
              Digits.digitCount (shiftCoefficient coefficient (exponent + scale))
          · rw [if_pos hcarry] at hrounded
            cases hrounded
          · rw [if_neg hcarry] at hrounded
            cases hrounded
            constructor
            · intro hsame
              exact ⟨_, _, hsame⟩
            · rintro ⟨_, _, hsame⟩
              cases hsame
              have hshift : shiftCoefficient coefficient (-scale + scale) = coefficient := by
                rw [Int.add_left_neg]
                exact Nat.mul_one coefficient
              rw [hshift]
  | infinite negative => cases hrounded
  | nan negative signaling payload => cases hrounded

end Number.Decimal

/-! ## Cutting -/

/-- A text is not cut if it fits, and only then. -/
theorem Text.Fitting.take_eq_self_iff (size : Char → Nat) (space : Nat) (text : List Char) :
    take size space text = text ↔ Number.total (text.map size) ≤ space := by
  constructor
  · intro hsame
    rw [← hsame]
    exact take_sizes_le size space text
  · exact take_eq_self size space text

theorem Value.text_eq_take_iff (size : Char → Nat) (space : Nat) (s : String) :
    Value.text s = .text (String.ofList (Fitting.take size space s.toList)) ↔
      Number.total (s.toList.map size) ≤ space := by
  rw [← Fitting.take_eq_self_iff, Value.text.injEq, ← String.toList_inj, String.toList_ofList,
    eq_comm]

theorem Value.bytes_eq_take_iff (space : Nat) (b : Bytes) :
    Value.bytes b = .bytes (b.take space) ↔ b.length ≤ space := by
  rw [Value.bytes.injEq, List.take_self_eq_iff]

namespace Inference

open Value (text_eq_take_iff bytes_eq_take_iff)

variable (i : Inference)

/-- What a wrapper makes of a value that it holds, of a text after what the code page does not have
was replaced. -/
def conformed (w : Typed Value) (value : Value) : Value :=
  match w, value with
  | .varBinary _ (some space), .bytes b => .bytes (b.take space)
  | .varChar _ (some space), .text s =>
    .text (String.ofList (Fitting.take i.charset.size space s.toList))
  | .nvarChar _ (some space), .text s =>
    .text (String.ofList (Fitting.take Utf16.size space s.toList))
  | .decimal _ _ scale, value =>
    match value.toDecimal with
    | .ok d => ((d.quantize? maxPrecision scale).map Value.decimal).getD value
    | .error _ => value
  | .date _, .date d => if i.version.hasTemporal then value else .dateTime d.midnight
  | _, value => value

/-- A value of which its wrapper leaves everything as it is: it is not longer than an explicit size,
in the unit of the wrapper; it is a decimal number that has the digits behind the point already; and
a date only where the server has dates. -/
def AsWrapped : Typed Value → Prop
  | .varBinary (some b) (some space) => b.length ≤ space
  | .varChar (some s) (some space) =>
    Number.total ((i.charset.substitute s).toList.map i.charset.size) ≤ space
  | .nvarChar (some s) (some space) => Utf16.length s ≤ space
  | .decimal value _ scale =>
    value = .null ∨ ∃ negative coefficient, value = .decimal (.finite negative coefficient (-scale))
  | .date (some _) => i.version.hasTemporal = true
  | _ => True

/-- The value in a wrapper as it is sent in a row: text of the code page with missing characters
replaced. -/
def unwrapped (w : Typed Value) : Value :=
  match w with
  | .char (some s) => .text (i.charset.substitute s)
  | .varChar (some s) _ => .text (i.charset.substitute s)
  | w => (Value.typed w).unwrap

/-- Text was encoded only if the code page is known. -/
theorem isKnown_of_encodeText {s : String} {encoded : String × Nat}
    (h : (i.encodeText s).result = .ok encoded) : i.charset.isKnown = true := by
  cases hknown : i.charset.isKnown with
  | true => rfl
  | false =>
      unfold encodeText at h
      rw [hknown] at h
      cases h

/-- Text that was encoded has the missing characters replaced, and its size is the number of bytes
of its characters. -/
theorem of_encodeText {s : String} {encoded : String × Nat}
    (h : (i.encodeText s).result = .ok encoded) :
    encoded = (i.charset.substitute s,
      Number.total ((i.charset.substitute s).toList.map i.charset.size)) := by
  have hknown := i.isKnown_of_encodeText h
  obtain ⟨bytes, hbytes, hencoded⟩ := i.encodeText_eq hknown s
  obtain ⟨bytes', hbytes', hlength⟩ :=
    i.charset.encodeText?_of_has _ (i.charset.missing_substitute hknown s)
  rw [hbytes] at hbytes'
  cases hbytes'
  rw [hencoded] at h
  cases h
  rw [hlength]

/-- Text of the code page is encoded before it is cut. -/
theorem exists_encoded {text : Points} {explicit : Option Nat} {b : BoundAs (Option Points)}
    (h : (i.bindVarChar (some text) explicit).result = .ok b) :
    ∃ encoded, (i.encodePoints text).result = .ok encoded := by
  cases explicit with
  | none =>
      obtain ⟨encoded, hencoded, _⟩ := Reported.result_bind_eq_ok h
      exact ⟨encoded, hencoded⟩
  | some space =>
      obtain ⟨encoded, hencoded, _⟩ := Reported.result_bind_eq_ok h
      exact ⟨encoded, hencoded⟩

/-- In a column of its own type a wrapped value is sent unwrapped; text of the code page has the
characters replaced that are missing there. -/
theorem sentCell_typed {w : Typed Value} {b : Bound} (hbound : (i.bindTyped w).result = .ok b)
    {c : Column} (hcolumn : c.typeCode = w.typeCode) :
    (Connection.sentCell i true c (.typed w)).result = .ok (i.unwrapped w) := by
  have hcodePage : ∀ s : String, (Value.typed w).unwrap = .text s →
      c.typeCode ∈ TypeCode.singleByteStrings → i.charset.isKnown = true →
      i.unwrapped w = .text (i.charset.substitute s) →
      (Connection.sentCell i true c (.typed w)).result = .ok (i.unwrapped w) := by
    intro s htext hmem hknown hunwrapped
    have hencoded : Connection.isEncoded true c = true := decide_eq_true hmem
    rw [Connection.sentCell_eq c _ fun _ _ _ => hknown, hunwrapped,
      Connection.convertedCell_of_encoded hencoded htext]
  have hother : c.typeCode ∉ TypeCode.singleByteStrings → i.unwrapped w = (Value.typed w).unwrap →
      (Connection.sentCell i true c (.typed w)).result = .ok (i.unwrapped w) := by
    intro hmem hunwrapped
    have hplain : Connection.isEncoded true c = false := decide_eq_false hmem
    rw [Connection.sentCell_eq c _ fun _ _ hencoded => absurd hencoded (by rw [hplain]; nofun),
      hunwrapped, Connection.convertedCell_of_not_encoded hplain]
  rw [hcolumn] at hcodePage hother
  cases w with
  | untyped value size => cases hbound
  | integer width value =>
      have hcode : ∀ width : IntegerWidth,
          (Typed.integer width value : Typed Value).typeCode ∉ TypeCode.singleByteStrings
        | .tiny => show TypeCode.tinyInt ∉ TypeCode.singleByteStrings by decide
        | .small => show TypeCode.smallInt ∉ TypeCode.singleByteStrings by decide
        | .regular => show TypeCode.int ∉ TypeCode.singleByteStrings by decide
        | .big => show TypeCode.bigInt ∉ TypeCode.singleByteStrings by decide
      exact hother (hcode width) rfl
  | decimal value precision scale =>
      exact hother (show TypeCode.decimal ∉ TypeCode.singleByteStrings by decide) rfl
  | binary value =>
      exact hother (show TypeCode.binary ∉ TypeCode.singleByteStrings by decide) rfl
  | varBinary value explicit =>
      exact hother (show TypeCode.varBinary ∉ TypeCode.singleByteStrings by decide) rfl
  | nvarChar value explicit =>
      exact hother (show TypeCode.nvarChar ∉ TypeCode.singleByteStrings by decide) rfl
  | date value => exact hother (show TypeCode.date ∉ TypeCode.singleByteStrings by decide) rfl
  | char value =>
      cases value with
      | none => rfl
      | some s =>
          obtain ⟨encoded, hencoded, _⟩ := Reported.result_bind_eq_ok hbound
          exact hcodePage s rfl (show TypeCode.char ∈ TypeCode.singleByteStrings by decide)
            (i.isKnown_of_encodeText hencoded) rfl
  | varChar value explicit =>
      cases value with
      | none => rfl
      | some s =>
          obtain ⟨sent, hsent, _⟩ := Reported.result_bind_eq_ok hbound
          obtain ⟨encoded, hencoded⟩ := i.exists_encoded hsent
          rw [i.encodePoints_ofString] at hencoded
          exact hcodePage s rfl (show TypeCode.varChar ∈ TypeCode.singleByteStrings by decide)
            (i.isKnown_of_encodeText hencoded) rfl

/-- Text of the code page with a fixed length, as a parameter. -/
theorem value_bindChar {s : String} {b : Bound}
    (hbound : (i.bindTyped (.char (some s))).result = .ok b) :
    b.value = .text (i.charset.substitute s) := by
  obtain ⟨encoded, hencoded, hbound⟩ := Reported.result_bind_eq_ok hbound
  rw [i.of_encodeText hencoded] at hbound
  dsimp only at hbound
  split at hbound
  · cases hbound
  · cases hbound
    rfl

/-- A date as a parameter. -/
theorem value_bindDate (value : Option Date) :
    (i.bindDate value).value = i.conformed (.date value) (i.unwrapped (.date value)) := by
  unfold bindDate
  cases value with
  | none => split <;> rfl
  | some d =>
      show _ = if i.version.hasTemporal = true then _ else _
      split <;> rfl

/-- Text of the code page with its own or an explicit size, as a parameter. -/
theorem value_bindVarChar {s : String} {explicit : Option Nat} {b : BoundAs (Option Points)}
    (hbound : (i.bindVarChar (some (.ofString s)) explicit).result = .ok b) :
    textOrNull b.value =
      i.conformed (.varChar (some s) explicit) (.text (i.charset.substitute s)) := by
  cases explicit with
  | none =>
      obtain ⟨encoded, hencoded, hbound⟩ := Reported.result_bind_eq_ok hbound
      rw [i.encodePoints_ofString] at hencoded
      rw [i.of_encodeText hencoded] at hbound
      rw [← Except.ok.inj hbound]
      exact congrArg Value.text (Points.toString_ofString _)
  | some space =>
      obtain ⟨encoded, hencoded, hbound⟩ := Reported.result_bind_eq_ok hbound
      rw [i.encodePoints_ofString] at hencoded
      rw [i.of_encodeText hencoded] at hbound
      dsimp only at hbound
      by_cases hlong :
          space < Number.total ((i.charset.substitute s).toList.map i.charset.size)
      · rw [if_pos hlong] at hbound
        cases hbound
        exact congrArg Value.text (Points.toString_ofList _)
      · rw [if_neg hlong] at hbound
        cases hbound
        show Value.text (Points.toString _) = .text (String.ofList _)
        rw [Points.toString_ofString,
          Fitting.take_eq_self _ _ _ (Nat.le_of_not_lt hlong), String.ofList_toList]

/-- National text with its own or an explicit size, as a parameter. -/
theorem value_bindNVarChar (i : Inference) (s : String) (explicit : Option Nat) :
    textOrNull (i.bindNVarChar (some (.ofString s)) explicit).value =
      i.conformed (.nvarChar (some s) explicit) (.text s) := by
  cases explicit with
  | none => exact congrArg Value.text (Points.toString_ofString s)
  | some space =>
      have hcut := congrArg Points.toString (Points.cut_ofString space s)
      exact congrArg Value.text (hcut.trans (Points.toString_ofList _))

/-- A wrapped decimal number as a parameter. -/
theorem of_bindTyped_decimal {value : Value} {precision scale : Nat} {b : Bound}
    (hbound : (i.bindTyped (.decimal value precision scale)).result = .ok b) :
    value = .null ∧ b.value = .null ∨
      ∃ d rounded, value.toDecimal = .ok d ∧ d.quantize? maxPrecision scale = some rounded ∧
        b.value = .decimal rounded := by
  by_cases hnull : value = .null
  · subst hnull
    cases hbound
    exact .inl ⟨rfl, rfl⟩
  · have hbind : i.bindTyped (.decimal value precision scale) =
        match value.toDecimal with
        | .ok d => bindDecimalAs d precision scale
        | .error cause => .misuse cause := by
      cases value with
      | null => exact absurd rfl hnull
      | _ => rfl
    rw [hbind] at hbound
    cases hdecimal : value.toDecimal with
    | error cause =>
        rw [hdecimal] at hbound
        cases hbound
    | ok d =>
        rw [hdecimal] at hbound
        dsimp only at hbound
        unfold bindDecimalAs at hbound
        cases hrounded : d.quantize? maxPrecision scale with
        | none =>
            rw [hrounded] at hbound
            cases hbound
        | some rounded =>
            rw [hrounded] at hbound
            cases hbound
            exact .inr ⟨d, rounded, rfl, hrounded, rfl⟩

/-- As a parameter a value is sent as its wrapper makes it. -/
theorem value_bindTyped {w : Typed Value} {b : Bound} (hbound : (i.bindTyped w).result = .ok b) :
    b.value = i.conformed w (i.unwrapped w) := by
  cases w with
  | untyped value size => cases hbound
  | integer width value =>
      cases hbound
      rfl
  | decimal value precision scale =>
      unfold conformed unwrapped
      rcases i.of_bindTyped_decimal hbound with
        ⟨rfl, hnull⟩ | ⟨d, rounded, hdecimal, hrounded, hvalue⟩
      · exact hnull
      · show _ = match value.toDecimal with
          | .ok d => ((d.quantize? maxPrecision scale).map Value.decimal).getD value
          | .error _ => value
        rw [hvalue, hdecimal]
        dsimp only
        rw [hrounded]
        rfl
  | binary value =>
      cases hbound
      rfl
  | varBinary value explicit =>
      cases hbound
      rcases value with _ | bytes <;> rcases explicit with _ | space <;> rfl
  | char value =>
      cases value with
      | none =>
          cases hbound
          rfl
      | some s => exact i.value_bindChar hbound
  | varChar value explicit =>
      cases value with
      | none =>
          cases hbound
          cases explicit with
          | none => rfl
          | some space => rfl
      | some s =>
          obtain ⟨sent, hsent, hbound⟩ := Reported.result_bind_eq_ok hbound
          cases hbound
          exact i.value_bindVarChar hsent
  | nvarChar value explicit =>
      cases hbound
      cases value with
      | none => cases explicit <;> rfl
      | some s => exact i.value_bindNVarChar s explicit
  | date value =>
      cases hbound
      exact i.value_bindDate value

/-- The wrapper makes no difference exactly if it leaves everything as it is. -/
theorem unwrapped_eq_value_iff {w : Typed Value} {b : Bound}
    (hbound : (i.bindTyped w).result = .ok b) : i.unwrapped w = b.value ↔ i.AsWrapped w := by
  have hvalue := i.value_bindTyped hbound
  cases w with
  | untyped value size => cases hbound
  | integer width value => exact iff_of_true hvalue.symm trivial
  | binary value => exact iff_of_true hvalue.symm trivial
  | char value => exact iff_of_true hvalue.symm trivial
  | decimal value precision scale =>
      unfold AsWrapped
      rcases i.of_bindTyped_decimal hbound with
        ⟨rfl, hnull⟩ | ⟨d, rounded, hdecimal, hrounded, hsent⟩
      · exact iff_of_true hnull.symm (.inl rfl)
      · have hsame := Decimal.quantize?_eq_self_iff hrounded
        rw [hsent]
        show value = .decimal rounded ↔ _
        constructor
        · rintro rfl
          cases hdecimal
          obtain ⟨negative, coefficient, hd⟩ := hsame.1 rfl
          exact .inr ⟨negative, coefficient, congrArg Value.decimal hd⟩
        · rintro (rfl | ⟨negative, coefficient, rfl⟩)
          · cases hdecimal
          · cases hdecimal
            exact congrArg Value.decimal (hsame.2 ⟨negative, coefficient, rfl⟩)
  | varBinary value explicit =>
      rcases value with _ | bytes <;> rcases explicit with _ | space
      · exact iff_of_true hvalue.symm trivial
      · exact iff_of_true hvalue.symm trivial
      · exact iff_of_true hvalue.symm trivial
      · rw [hvalue]
        exact bytes_eq_take_iff space bytes
  | varChar value explicit =>
      rcases value with _ | s <;> rcases explicit with _ | space
      · exact iff_of_true hvalue.symm trivial
      · exact iff_of_true hvalue.symm trivial
      · exact iff_of_true hvalue.symm trivial
      · rw [hvalue]
        exact text_eq_take_iff i.charset.size space _
  | nvarChar value explicit =>
      rcases value with _ | s <;> rcases explicit with _ | space
      · exact iff_of_true hvalue.symm trivial
      · exact iff_of_true hvalue.symm trivial
      · exact iff_of_true hvalue.symm trivial
      · rw [hvalue]
        exact text_eq_take_iff Utf16.size space s
  | date value =>
      rcases value with _ | d
      · exact iff_of_true hvalue.symm trivial
      · rw [hvalue]
        show Value.date d = (if i.version.hasTemporal = true then _ else _) ↔
          i.version.hasTemporal = true
        by_cases htemporal : i.version.hasTemporal = true
        · rw [if_pos htemporal]
          exact iff_of_true rfl htemporal
        · rw [if_neg htemporal]
          exact iff_of_false nofun htemporal

/-- Whenever a wrapped value can be bound, for every protocol version and code page: it can be sent
in a row, in a column of its own type, and as a parameter it is sent as its wrapper makes what is
sent in the row. The two are the same exactly if the wrapper leaves everything as it is. -/
theorem sentCell_eq_bound_iff {w : Typed Value} {b : Bound}
    (hbound : (i.bindTyped w).result = .ok b) {c : Column} (hcolumn : c.typeCode = w.typeCode) :
    ∃ v, (Connection.sentCell i true c (.typed w)).result = .ok v ∧ b.value = i.conformed w v ∧
      (v = b.value ↔ i.AsWrapped w) :=
  ⟨i.unwrapped w, i.sentCell_typed hbound hcolumn, i.value_bindTyped hbound,
    i.unwrapped_eq_value_iff hbound⟩

/-- A column of text of the code page. -/
def nameColumn : Column := { name := "name", typeCode := .varChar, size := 50 }

/-- Text in a wrapper with room for all of it. One character is replaced, in both ways. -/
theorem sentCell_eq_bound_iff_fitting :
    ((⟨.v74, .latin1, true⟩ : Inference).bindTyped (.varChar (some "a€") (some 2))).result =
        .ok ⟨.varChar 2, .text "a?", 2⟩ ∧
      (Connection.sentCell ⟨.v74, .latin1, true⟩ true nameColumn
        (.typed (.varChar (some "a€") (some 2)))).result = .ok (.text "a?") := by
  have hbound : ((⟨.v74, .latin1, true⟩ : Inference).bindTyped
      (.varChar (some "a€") (some 2))).result = .ok ⟨.varChar 2, .text "a?", 2⟩ := by rfl
  have hcolumn : nameColumn.typeCode =
      (Typed.varChar (some "a€") (some 2) : Typed Value).typeCode := rfl
  obtain ⟨v, hsent, _, hsame⟩ := sentCell_eq_bound_iff _ hbound hcolumn
  refine ⟨hbound, ?_⟩
  rw [hsent, hsame.2 (show Number.total _ ≤ 2 by decide)]

/-- Text that is longer than the size of its wrapper is cut as a parameter and not in a row. -/
theorem size_not_in_row :
    ((⟨.v74, .cp1252, true⟩ : Inference).bindTyped (.varChar (some "abc") (some 2))).result =
        .ok ⟨.varChar 2, .text "ab", 2⟩ ∧
      (Connection.sentCell ⟨.v74, .cp1252, true⟩ true nameColumn
        (.typed (.varChar (some "abc") (some 2)))).result = .ok (.text "abc") :=
  ⟨rfl, rfl⟩

end Inference

end TdsClient
