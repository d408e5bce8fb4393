import TdsClient.Proofs.Number.Quantize
import TdsClient.Proofs.Text.Encoding

/-!
# What it means for a type to fit a value

A value whose type is inferred is sent with a type, a value and a size. The
type should hold what is sent, in the unit in which the type counts, and
what is sent should stand for the value. Where it cannot, the loss is
reported; and some numbers are refused.

## Main definitions

* `SqlType.InBounds`, `Inference.Holds` — what a type can hold.
* `Inference.Represents` — what a value may be sent as.
* `Inference.losses` — what is reported of a value.
* `Inference.Refused` — the values that have no type.
-/

namespace TdsClient

open Number

/-- A value whose type is inferred. -/
def Value.IsPlain : Value → Prop
  | .null => True
  | .bool _ => True
  | .int _ => True
  | .float _ => True
  | .decimal _ => True
  | .bytes _ => True
  | .byteArray _ => True
  | .memoryView _ => True
  | .text _ => True
  | .dateTime _ => True
  | .date _ => True
  | .time _ => True
  | .uuid _ => True
  | _ => False

/-- The size, or the precision and scale, of a type lie in the bounds of the server. -/
def SqlType.InBounds : SqlType → Prop
  | .decimal precision scale => 1 ≤ precision ∧ precision ≤ 38 ∧ scale ≤ precision
  | .varBinary size => 1 ≤ size ∧ size ≤ 8000
  | .varChar size => 1 ≤ size ∧ size ≤ 8000
  | .char size => 1 ≤ size ∧ size ≤ 8000
  | .nvarChar size => 1 ≤ size ∧ size ≤ 4000
  | _ => True

namespace Inference

/-- A type of a size or without bound holds a value. Byte strings are counted in bytes, text of the
code page in the bytes of its encoding, and national text in UTF-16 code units. -/
def Holds (i : Inference) : SqlType → Value → Prop
  | .varChar _, .null => True
  | .bit, .bool _ => True
  | .tinyInt, .int n => 0 ≤ n ∧ n < 2 ^ 8
  | .smallInt, .int n => -2 ^ 15 ≤ n ∧ n < 2 ^ 15
  | .int, .int n => -2 ^ 31 ≤ n ∧ n < 2 ^ 31
  | .bigInt, .int n => -2 ^ 63 ≤ n ∧ n < 2 ^ 63
  | .float, .float _ => True
  | .decimal precision scale, .decimal d =>
    ∃ q, d.value? = some q ∧ (∃ m : Int, q = m / 10 ^ scale) ∧ |q| < 10 ^ (precision - scale)
  | .varBinary size, .bytes b => b.length ≤ size
  | .varBinaryMax, .bytes _ => True
  | .image, .bytes _ => True
  | .char size, .text s => ∃ bytes, i.charset.encodeText? s = some bytes ∧ bytes.length ≤ size
  | .varChar size, .text s => ∃ bytes, i.charset.encodeText? s = some bytes ∧ bytes.length ≤ size
  | .varCharMax, .text s => (i.charset.encodeText? s).isSome
  | .text, .text s => (i.charset.encodeText? s).isSome
  | .nvarChar size, .text s => Text.Utf16.length s ≤ size
  | .nvarCharMax, .text _ => True
  | .ntext, .text _ => True
  | .dateTime, .dateTime _ => True
  | .dateTime2 _, .dateTime _ => True
  | .time _, .time _ => True
  | _, _ => False

/-- A value that is sent stands for the value that was given: the same number, bytes, text or time,
a date as its midnight, an identifier as its text, and a time of day as that time on the base date
where the server has no times of day. -/
def Represents (i : Inference) : Value → Value → Prop
  | .null, .null => True
  | .bool b, .bool sent => sent = b
  | .int n, .int sent => sent = n
  | .float x, .float sent => sent = x
  | .decimal d, .decimal sent => ∃ q, d.value? = some q ∧ sent.value? = some q
  | .bytes b, .bytes sent => sent = b
  | .byteArray b, .bytes sent => sent = b
  | .memoryView b, .bytes sent => sent = b
  | .text s, .text sent => sent = s
  | .dateTime t, .dateTime sent => sent = t
  | .date d, .dateTime sent => sent = d.midnight
  | .time t, .time sent => i.version.hasTemporal = true ∧ sent = t
  | .time t, .dateTime sent => i.version.hasTemporal = false ∧ sent = ⟨⟨1900, 1, 1⟩, t⟩
  | .uuid u, .text sent => sent = u.text
  | _, _ => False

/-- What is lost of a value: digits if a decimal number has more than 38 of them, and the characters
that the code page does not have if text is sent in it. -/
def losses (i : Inference) : Value → List BindingWarning
  | .decimal (.finite negative coefficient exponent) =>
    if 38 < integerDigits coefficient exponent + fractionDigits exponent then
      [.precisionExceeded (.finite negative coefficient exponent)]
    else []
  | .text s =>
    if i.nationalText then []
    else (i.charset.missing s).map (.unrepresentable · i.charset.name)
  | _ => []

/-- A value for which there is no type, and why: one of a kind that no type is inferred for, an
integer of more than 64 bits, or a decimal number that is not finite, has more than 38 digits in
front of the point, or gets them when the digits beyond 38 are rounded away. -/
inductive Refused : Value → Error → Prop
  | noType {v : Value} (hv : ¬ v.IsPlain) (hwrapper : ∀ w, v ≠ .typed w) :
      Refused v (.interface (.noSqlType v.kind))
  | integer {n : Int} (h : n < -2 ^ 63 ∨ 2 ^ 63 ≤ n) : Refused (.int n) (.misuse .integerTooBig)
  | notFinite {d : Decimal} (h : d.value? = none) : Refused (.decimal d) (.decimalOutOfRange d)
  | tooLarge {negative : Bool} {coefficient : Nat} {exponent : Int}
      (h : 38 < integerDigits coefficient exponent) :
      Refused (.decimal (.finite negative coefficient exponent))
        (.decimalOutOfRange (.finite negative coefficient exponent))
  | carried {negative : Bool} {coefficient : Nat} {exponent : Int} {scale : Nat}
      (hscale : integerDigits coefficient exponent + scale = 38)
      (hlong : scale < fractionDigits exponent)
      (hcarry : 10 ^ 38 ≤ Decimal.shiftCoefficient coefficient (exponent + scale)) :
      Refused (.decimal (.finite negative coefficient exponent))
        (.decimalOutOfRange (.finite negative coefficient exponent))

/-- Whether a value is a number without binary digits behind the point. -/
def IsExactNumber : Value → Prop
  | .int _ => True
  | .decimal _ => True
  | _ => False

/-- No other plain value is refused. -/
theorem not_refused {v : Value} (hplain : v.IsPlain) (hv : ¬ IsExactNumber v) (e : Error) :
    ¬ Refused v e := by
  intro he
  cases he with
  | noType hother => exact hother hplain
  | integer => exact hv trivial
  | notFinite => exact hv trivial
  | tooLarge => exact hv trivial
  | carried => exact hv trivial

end Inference

end TdsClient
