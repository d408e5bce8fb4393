import TdsClient.Binding.Reported
import TdsClient.Number.Decimal.Quantize
import TdsClient.SqlType.Basic
import TdsClient.Text.CodePoint
import TdsClient.Text.Fitting
import TdsClient.Version
import TdsClient.Wrapping

/-!
# Choosing SQL types for values

A parameter is sent with a type that holds its value: the narrowest one of
the value's family, or, when types are not minimised, the widest, so that
a statement repeated with other values keeps its declarations. A wrapped
value has the type that its wrapper says.

Two kinds of value may not be sent as they are, and each is reported: a
decimal number with more digits than the server keeps loses the last of
them, and characters missing from the code page of single byte strings
are replaced.

The text of a value has characters only. A text in a wrapper of variable
length may hold surrogates too, and is bound as a text of code points.

## Main definitions

* `Inference` — what the choice depends on besides the value.
* `Inference.bind` — type, value as sent, and size.
* `Inference.encodeText`, `Inference.encodePoints` — text as the code page can hold it.
* `Inference.bindVarChar`, `Inference.bindNVarChar`, `Inference.bindVarBinary` — strings of
  variable length.
-/

namespace TdsClient

open Number

/-- What the choice of a type depends on besides the value: the protocol version, the code page
of single byte strings, and whether text is sent as national text. -/
structure Inference where
  version : Version
  charset : Text.Charset := .cp1252
  nationalText : Bool := true
deriving DecidableEq

/-- What is sent, with its type, and the size reported for it, which is `-1` for types that have
none. -/
structure BoundAs (α : Type) where
  type : SqlType
  value : α
  size : Int

/-- What is sent, seen as something else. -/
def BoundAs.map {α β : Type} (f : α → β) (b : BoundAs α) : BoundAs β := ⟨b.type, f b.value, b.size⟩

/-- A value as it is sent. -/
abbrev Bound := BoundAs Value

namespace Inference

/-- Longest national text of a sized type, in UTF-16 code units. -/
def maxNationalSize : Nat := 4000

/-- Longest sized byte string or text of a code page. -/
def maxSize : Nat := Wrapped.maxSize

/-- Largest precision of a decimal type. -/
def maxPrecision : Nat := Wrapped.maxPrecision

/-- A value of a type that has no size. -/
def fixed (type : SqlType) (value : Value) : Bound := ⟨type, value, Typed.noSize⟩

/-! ## Strings -/

/-- Byte strings without bound. -/
def longBinary (i : Inference) : SqlType := if i.version.hasMax then .varBinaryMax else .image

/-- Text of the code page without bound. -/
def longText (i : Inference) : SqlType := if i.version.hasMax then .varCharMax else .text

/-- National text without bound. -/
def longNationalText (i : Inference) : SqlType :=
  if i.version.hasMax then .nvarCharMax else .ntext

section

variable {α : Type}

/-- A byte string of a size; no size is less than one. -/
def boundBinary (i : Inference) (value : α) (size : Nat) : BoundAs α :=
  ⟨if maxSize < size then i.longBinary else .varBinary (max size 1), value, size⟩

/-- Text of the code page of a size. Longer text is sent as a large object. -/
def boundText (value : α) (size : Nat) : BoundAs α :=
  ⟨if maxSize < size then .text else .varChar (max size 1), value, size⟩

/-- National text of a size. -/
def boundNationalText (i : Inference) (value : α) (size : Nat) : BoundAs α :=
  ⟨if maxNationalSize < size then i.longNationalText else .nvarChar (max size 1), value, size⟩

end

/-- The code page that a value names. -/
def charsetOf : Value → Text.Charset
  | .text name => .ofName name
  | _ => .unnamed

/-- Why text cannot be encoded in a code page that is not known. -/
def charsetFault : Text.Charset → Misuse
  | .unnamed => .unsuitable
  | _ => .unknownCharset

/-- Text as the code page can hold it and its size in bytes. Characters that the code page does
not have are replaced and reported. -/
def encodeText (i : Inference) (s : String) : Reported (String × Nat) :=
  if !i.charset.isKnown then .misuse (charsetFault i.charset)
  else
    match i.charset.encodeText? s with
    | some bytes => pure (s, bytes.length)
    | none => do
      let substituted := s.toList.map fun c =>
        if i.charset.has c then c else i.charset.replacement
      Reported.warn ((s.toList.filter (!i.charset.has ·)).map
        (.unrepresentable · i.charset.name))
      return (String.ofList substituted, Number.total (substituted.map i.charset.size))

/-- What is reported of a code point: whether the code page has it. -/
def loss? (i : Inference) : Text.CodePoint → Option BindingWarning
  | .character c =>
    if i.charset.has c then none else some (.unrepresentable c i.charset.name)
  | .surrogate index => some (.surrogate index i.charset.name)

/-- A text that may hold surrogates as the code page can hold it, and its size in bytes. -/
def encodePoints (i : Inference) (text : Text.Points) : Reported (String × Nat) :=
  match text.toString? with
  | some s => i.encodeText s
  | none =>
    if !i.charset.isKnown then .misuse (charsetFault i.charset)
    else do
      Reported.warn (text.filterMap i.loss?)
      let substituted := text.map i.charset.standIn
      return (String.ofList substituted, Number.total (substituted.map i.charset.size))

/-- Text of either sort. -/
def bindText (i : Inference) (minimize : Bool) (s : String) : Reported Bound :=
  if i.nationalText then
    let size := Text.Utf16.length s
    if minimize then pure (i.boundNationalText (.text s) size)
    else pure ⟨i.longNationalText, .text s, size⟩
  else do
    let (s, size) ← i.encodeText s
    if minimize then return boundText (.text s) size
    else return ⟨i.longText, .text s, size⟩

/-- A byte string. -/
def bindBytes (i : Inference) (minimize : Bool) (b : Bytes) : Bound :=
  if minimize then i.boundBinary (.bytes b) b.length
  else ⟨i.longBinary, .bytes b, b.length⟩

/-! ## Numbers -/

/-- The narrowest integer type that holds an integer of 64 bits. -/
def integerType (n : Int) : SqlType :=
  if IntegerWidth.tiny.holds n then .tinyInt
  else if IntegerWidth.small.holds n then .smallInt
  else if IntegerWidth.regular.holds n then .int
  else .bigInt

/-- An integer; there is no type for more than 64 bits. -/
def bindInt (minimize : Bool) (n : Int) : Reported Bound :=
  if !IntegerWidth.big.holds n then .misuse .integerTooBig
  else pure (fixed (if minimize then integerType n else .bigInt) (.int n))

/-- Digits in front of the point, none for a fraction below one tenth. -/
def integerDigits (coefficient : Nat) (exponent : Int) : Nat :=
  ((Digits.digitCount coefficient : Int) + exponent).toNat

/-- Digits behind the point. -/
def fractionDigits (exponent : Int) : Nat := (-exponent).toNat

/-- The precision and scale that hold a decimal number. With more digits than any precision
allows, the fraction is cut to what the integer part leaves, and this is reported. -/
def decimalShape (d : Decimal) : Reported (Nat × Nat) :=
  match d with
  | .finite _ coefficient exponent =>
    let whole := integerDigits coefficient exponent
    let fraction := fractionDigits exponent
    if maxPrecision < whole then .fail (.decimalOutOfRange d)
    else if maxPrecision < whole + fraction then do
      Reported.warn [.precisionExceeded d]
      return (maxPrecision, min fraction (maxPrecision - whole))
    else pure (max (whole + fraction) 1, fraction)
  | _ => .fail (.decimalOutOfRange d)

/-- A decimal number of a given precision and scale. -/
def bindDecimalAs (d : Decimal) (precision scale : Nat) : Reported Bound :=
  match d.quantize? maxPrecision scale with
  | some rounded => pure (fixed (.decimal precision scale) (.decimal rounded))
  | none => .fail (.decimalOutOfRange d)

/-- A decimal number of the precision and scale that hold it. -/
def bindDecimal (minimize : Bool) (d : Decimal) : Reported Bound := do
  let (precision, scale) ← decimalShape d
  bindDecimalAs d (if minimize then precision else maxPrecision) scale

/-! ## Dates and times -/

/-- The day that stands with a time where the server has no times of day. -/
def baseDate : Date := ⟨1900, 1, 1⟩

/-- A date and time; fractions of a second need the newer type. -/
def bindDateTime (i : Inference) (t : DateTime) : Bound :=
  if t.time.microsecond ≠ 0 ∧ i.version.hasTemporal then
    fixed (.dateTime2 SqlType.defaultPrecision) (.dateTime t)
  else fixed .dateTime (.dateTime t)

/-- A time of day. -/
def bindTime (i : Inference) (t : Time) : Bound :=
  if i.version.hasTemporal then fixed (.time SqlType.defaultPrecision) (.time t)
  else fixed .dateTime (.dateTime ⟨baseDate, t⟩)

/-! ## Wrapped values -/

/-- The type of integers of a width. -/
def integerTypeOf : IntegerWidth → SqlType
  | .tiny => .tinyInt
  | .small => .smallInt
  | .regular => .int
  | .big => .bigInt

/-- Null, or the value made of what is there. -/
def nullOr {α : Type} (make : α → Value) (value : Option α) : Value := (value.map make).getD .null

/-- Text of fixed length. -/
def bindChar (i : Inference) : Option String → Reported Bound
  | none => pure ⟨.char 1, .null, 0⟩
  | some s => do
    let (s, size) ← i.encodeText s
    if maxSize < size then Reported.misuse (.tooLong "CHAR")
    else return ⟨.char (max size 1), .text s, size⟩

/-- Text of the code page with its own or an explicit size. Text longer than that is cut after
the last character that fits. -/
def bindVarChar (i : Inference) (value : Option Text.Points) (explicit : Option Nat) :
    Reported (BoundAs (Option Text.Points)) :=
  match value, explicit with
  | none, explicit => pure (boundText none (explicit.getD 1))
  | some text, none => do
    let (s, size) ← i.encodePoints text
    return boundText (some (.ofString s)) size
  | some text, some space => do
    let (s, size) ← i.encodePoints text
    if space < size then
      let kept := Text.Fitting.take i.charset.size space s.toList
      return boundText (some (.ofList kept)) space
    else return boundText (some (.ofString s)) space

/-- National text with its own or an explicit size, to which it is cut. -/
def bindNVarChar (i : Inference) (value : Option Text.Points) (explicit : Option Nat) :
    BoundAs (Option Text.Points) :=
  match value, explicit with
  | none, explicit => i.boundNationalText none (explicit.getD 0)
  | some text, none => i.boundNationalText (some text) text.units.length
  | some text, some space => i.boundNationalText (some (text.cut space)) space

/-- A byte string with its own or an explicit size. -/
def bindVarBinary (i : Inference) (value : Option Bytes) (explicit : Option Nat) :
    BoundAs (Option Bytes) :=
  match value, explicit with
  | none, explicit => i.boundBinary none (explicit.getD 0)
  | some b, none => i.boundBinary (some b) b.length
  | some b, some space => i.boundBinary (some (b.take space)) space

/-- Bytes, or null. -/
def bytesOrNull : Option Bytes → Value := nullOr .bytes

/-- A text of characters, or null. -/
def textOrNull : Option Text.Points → Value := nullOr fun text => .text text.toString

/-- A date; where the server has none, its midnight. -/
def bindDate (i : Inference) (value : Option Date) : Bound :=
  if i.version.hasTemporal then fixed .date (nullOr .date value)
  else fixed .dateTime (nullOr (.dateTime ·.midnight) value)

/-- A wrapped value. -/
def bindTyped (i : Inference) : Typed Value → Reported Bound
  | .untyped .. => .misuse .untyped
  | .integer width value => pure (fixed (integerTypeOf width) (nullOr .int value))
  | .decimal .null precision scale => pure (fixed (.decimal precision scale) .null)
  | .decimal value precision scale =>
    match value.toDecimal with
    | .ok d => bindDecimalAs d precision scale
    | .error cause => .misuse cause
  | .binary value =>
    let size := (value.map fun b => max 1 b.length).getD 1
    pure ⟨.binary size, nullOr .bytes value, size⟩
  | .varBinary value explicit => pure ((i.bindVarBinary value explicit).map bytesOrNull)
  | .char value => i.bindChar value
  | .varChar value explicit => do
    let b ← i.bindVarChar (value.map .ofString) explicit
    return b.map textOrNull
  | .nvarChar value explicit =>
    pure ((i.bindNVarChar (value.map .ofString) explicit).map textOrNull)
  | .date value => pure (i.bindDate value)

/-! ## Values of any kind -/

/-- The type of a value and the value as it is sent. -/
def bind (i : Inference) (minimize : Bool) : Value → Reported Bound
  | .typed wrapper => i.bindTyped wrapper
  | .null => pure ⟨.varChar 1, .null, 0⟩
  | .bool b => pure (fixed .bit (.bool b))
  | .int n => bindInt minimize n
  | .float x => pure (fixed .float (.float x))
  | .decimal d => bindDecimal minimize d
  | .bytes b => pure (i.bindBytes minimize b)
  | .byteArray b => pure (i.bindBytes minimize b)
  | .memoryView b => pure (i.bindBytes minimize b)
  | .text s => i.bindText minimize s
  | .dateTime t => pure (i.bindDateTime t)
  | .date d => pure (fixed .dateTime (.dateTime d.midnight))
  | .time t => pure (i.bindTime t)
  | .uuid u => pure ⟨.char 36, .text u.text, 36⟩
  | value => .fail (.interface (.noSqlType value.kind))

end Inference

end TdsClient
