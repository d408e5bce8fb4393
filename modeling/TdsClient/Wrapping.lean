import TdsClient.Error

/-!
# Wrapping values

Builds the wrappers of `Typed` from values of any kind and checks what
goes in: integers have the width of their type, text and byte strings are
what they claim to be, an explicit size is positive, and a decimal wrapper
holds something that reads as a decimal number. Null can always be
wrapped.

Of two faults the one of the value is reported before the one of a size,
and precision and scale before the value.

## Main definitions

* `Wrapped.integer`, `Wrapped.decimal`, … — one function for each wrapper.
* `Value.toDecimal` — the decimal number that a value reads as.
-/

namespace TdsClient

open Number

/-- An integer that is part of a decimal number. -/
def Value.toPart : Value → Except Misuse Int
  | .int n => if IntegerWidth.big.holds n then .ok n else .error .fieldTooLarge
  | .bool b => .ok b.toNat
  | _ => .error .malformedDecimal

/-- A part of a decimal number that is at most a limit. -/
def Value.toPartBelow (limit : Nat) (value : Value) : Except Misuse Nat := do
  let n ← value.toPart
  if 0 ≤ n ∧ n ≤ limit then return n.toNat else throw .malformedDecimal

/-- Digits of a decimal number given one by one. -/
def Value.toDigits : Value → Except Misuse (List Nat)
  | .list items => items.mapM (Value.toPartBelow 9)
  | .tuple items => items.mapM (Value.toPartBelow 9)
  | _ => .error .malformedDecimal

/-- The number of a sign and digits. A letter in place of the exponent makes an infinity or a
NaN of them. -/
def Value.scaleDigits (exponent : Value) : Except Misuse (Bool → Nat → Except Misuse Decimal) :=
  match exponent with
  | .text "F" => .ok fun negative _ => .ok (.infinite negative)
  | .text "n" => .ok fun negative digits => .ok (.nan negative false digits)
  | .text "N" => .ok fun negative digits => .ok (.nan negative true digits)
  | exponent => do
    let e ← exponent.toPart
    return fun negative digits =>
      if Decimal.inFormat digits e then .ok (.finite negative digits e) else .error .invalidDecimal

/-- A decimal number from sign, digits and exponent, of which the digits are looked at last. -/
def Value.assembleDecimal (sign digits exponent : Value) : Except Misuse Decimal := do
  let sign ← sign.toPartBelow 1
  let number ← Value.scaleDigits exponent
  let digits ← digits.toDigits
  number (sign = 1) (Digits.value digits)

/-- The decimal number that a value reads as. A binary number is read from its written form,
so it becomes the shortest decimal that stands for it. -/
def Value.toDecimal : Value → Except Misuse Decimal
  | .decimal d => .ok d
  | .bool b => .ok (.ofInt b.toNat)
  | .int n => .ok (.ofInt n)
  | .float x => readDecimal x.text
  | .text s => readDecimal s
  | .list [sign, digits, exponent] => Value.assembleDecimal sign digits exponent
  | .tuple [sign, digits, exponent] => Value.assembleDecimal sign digits exponent
  | .list _ => .error .malformedDecimal
  | .tuple _ => .error .malformedDecimal
  | _ => .error .notDecimal
where
  /-- Reads text as a decimal number. -/
  readDecimal (s : String) : Except Misuse Decimal :=
    match Decimal.parse? s with
    | some d => .ok d
    | none => .error .invalidDecimal

namespace Wrapped

/-- Longest byte string or text of a sized single byte type. -/
def maxSize : Nat := 8000

/-- Largest precision of a decimal type. -/
def maxPrecision : Nat := 38

/-- An explicit size, if there is one, must be positive. -/
def checkSize : Option Int → Except Misuse (Option Nat)
  | none => .ok none
  | some size => if size < 1 then .error (.invalidSize size) else .ok (some size.toNat)

/-- Text or null. -/
def checkText : Value → Except Misuse (Option String)
  | .null => .ok none
  | .text s => .ok (some s)
  | value => .error (.wrongKind value)

/-- A byte string of any kind or null. -/
def checkBytes (value : Value) : Except Misuse (Option Bytes) :=
  match value, value.asBytes? with
  | .null, _ => .ok none
  | _, some b => .ok (some b)
  | value, none => .error (.wrongKind value)

/-- A value without a type; it cannot be bound. -/
def untyped (value : Value) (size : Option Int) : Typed Value := .untyped value size

/-- An integer of a width. Truth values are no integers here. -/
def integer (width : IntegerWidth) (value : Value) : Except Misuse (Typed Value) :=
  match value with
  | .null => .ok (.integer width none)
  | .int n =>
    if width.holds n then .ok (.integer width (some n))
    else .error (.integerOutOfRange n (Typed.integer (α := Value) width none).name)
  | value => .error (.wrongKind value)

/-- A decimal number of a precision and a scale. -/
def decimal (value : Value) (precision scale : Int) : Except Misuse (Typed Value) := do
  if precision < 1 ∨ maxPrecision < precision then .error (.invalidPrecision precision)
  else if scale < 0 ∨ precision < scale then .error (.invalidScale scale)
  else
    match value with
    | .null => .ok (.decimal .null precision.toNat scale.toNat)
    | value =>
      let _ ← value.toDecimal
      .ok (.decimal value precision.toNat scale.toNat)

/-- A byte string of fixed length. -/
def binary (value : Value) : Except Misuse (Typed Value) := do
  let b ← checkBytes value
  if maxSize < (b.map List.length).getD 0 then .error (.tooLong "BINARY")
  else .ok (.binary b)

/-- A byte string of variable length. -/
def varBinary (value : Value) (size : Option Int) : Except Misuse (Typed Value) := do
  let b ← checkBytes value
  let size ← checkSize size
  .ok (.varBinary b size)

/-- Text of the connection's code page with fixed length. -/
def char (value : Value) : Except Misuse (Typed Value) := do
  let s ← checkText value
  if maxSize < (s.map String.length).getD 0 then .error (.tooLong "CHAR")
  else .ok (.char s)

/-- Text of the connection's code page with variable length. -/
def varChar (value : Value) (size : Option Int) : Except Misuse (Typed Value) := do
  let s ← checkText value
  let size ← checkSize size
  .ok (.varChar s size)

/-- National text with variable length. -/
def nvarChar (value : Value) (size : Option Int) : Except Misuse (Typed Value) := do
  let s ← checkText value
  let size ← checkSize size
  .ok (.nvarChar s size)

/-- A date; of a date and time the date. -/
def date (value : Value) : Except Misuse (Typed Value) :=
  match value with
  | .null => .ok (.date none)
  | .dateTime t => .ok (.date (some t.date))
  | .date d => .ok (.date (some d))
  | value => .error (.wrongKind value)

end Wrapped

end TdsClient
