import TdsClient.Number.Order
import TdsClient.Number.Rounding

/-!
# Sums of decimal numbers

A sum keeps 28 digits, a half going to the even neighbour, and fails if its
first digit would stand too far to the left. The exact sum is rounded once.
An operand that lies wholly behind the digits that matter is replaced by a
one just behind them, which rounds the same way, so that no power of ten is
ever built for a distance between exponents.

## Main definitions

* `Decimal.sum?` — the rounded sum of two finite numbers.
-/

namespace TdsClient.Number.Decimal

/-- The digits that a sum keeps. -/
def sumDigits : Nat := 28

/-- Largest exponent of the first digit of a sum. -/
def maxSumAdjusted : Int := 999999

/-- A signed coefficient with its exponent of ten. -/
structure Scaled where
  coefficient : Int
  exponent : Int
deriving DecidableEq

namespace Scaled

/-- The number of digits of the coefficient. -/
def digits (x : Scaled) : Nat := Digits.digitCount x.coefficient.natAbs

/-- `low`, or a one of its sign just behind the digits that matter beside `high`. -/
def near (high low : Scaled) : Scaled :=
  let last := high.exponent + min (-1) ((high.digits : Int) - sumDigits - 2)
  if (low.digits : Int) + low.exponent - 1 < last then ⟨low.coefficient.sign, last⟩ else low

/-- The exact sum of two numbers of which the second has the smaller exponent. -/
def add (high low : Scaled) : Scaled :=
  ⟨high.coefficient * Nat.pow 10 (high.exponent - low.exponent).toNat + low.coefficient,
    low.exponent⟩

/-- The number with no more digits than a sum keeps. A rounding that carries into one digit more
ends in a zero, so rounding again drops it. -/
def round (x : Scaled) : Scaled :=
  let excess := x.digits - sumDigits
  ⟨Rounding.halfEven ((x.coefficient : Rat) / (Nat.pow 10 excess : Rat)), x.exponent + excess⟩

/-- The sum before it is rounded, up to what no rounding can see. -/
def exactSum (x y : Scaled) : Scaled :=
  if x.coefficient = 0 then y
  else if y.coefficient = 0 then x
  else if y.exponent ≤ x.exponent then x.add (x.near y)
  else y.add (y.near x)

/-- The rounded sum. -/
def sum (x y : Scaled) : Scaled := (x.exactSum y).round.round

end Scaled

/-- The sum of two finite numbers, nothing if it is too large. -/
def sum? : Decimal → Decimal → Option Decimal
  | .finite negative c e, .finite negative' c' e' =>
    let signed (negative : Bool) (c : Nat) : Int := if negative then -c else c
    let total := Scaled.sum ⟨signed negative c, e⟩ ⟨signed negative' c', e'⟩
    if maxSumAdjusted < total.exponent + total.digits - 1 then none
    else some (.finite (total.coefficient < 0) total.coefficient.natAbs total.exponent)
  | _, _ => none

end TdsClient.Number.Decimal
