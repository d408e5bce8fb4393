import TdsClient.Number.Decimal.Basic
import TdsClient.Number.Rounding

/-!
# Rounding a decimal to a scale

`Decimal.quantize?` gives a number a fixed count of fractional digits,
rounding half to even, and fails when the result would need more digits
than allowed. A rounding never needs powers of ten larger than the
operands: a coefficient whose last digits all fall away rounds to zero
without being divided.
-/

namespace TdsClient.Number.Decimal

/-- A coefficient shifted by a power of ten: padded with zeros to the left, rounded half to even
to the right. -/
def shiftCoefficient (coefficient : Nat) (shift : Int) : Nat :=
  if 0 ≤ shift then coefficient * Nat.pow 10 shift.toNat
  else if (Digits.digitCount coefficient : Int) < -shift then 0
  else (Rounding.halfEven ((coefficient : Rat) / (Nat.pow 10 (-shift).toNat : Rat))).toNat

/-- The number rounded to `scale` fractional digits, if it is finite and then has at most
`precision` digits. Zero fits any precision and keeps its sign. -/
def quantize? (precision scale : Nat) : Decimal → Option Decimal
  | .finite negative coefficient exponent =>
    let shift := exponent + scale
    if coefficient = 0 then some (.finite negative 0 (-scale))
    else if (precision : Int) < Digits.digitCount coefficient + shift then none
    else
      let rounded := shiftCoefficient coefficient shift
      if precision < Digits.digitCount rounded then none
      else some (.finite negative rounded (-scale))
  | _ => none

end TdsClient.Number.Decimal
