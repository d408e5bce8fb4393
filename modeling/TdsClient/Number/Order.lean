import TdsClient.Number.Binary64
import TdsClient.Number.Decimal.Basic

/-!
# Comparing numbers of mixed kinds

Integers, binary and decimal floating point numbers are compared by their
exact values: each is a decimal number, since a power of two is a power of
five over a power of ten. Powers of ten are only built for numbers whose
first digits stand at the same place, so a huge exponent costs nothing.

## Main definitions

* `Decimal.compare?` — order of two numbers, nothing if either is a NaN.
* `Decimal.ofBinary64` — the exact decimal value of a binary number.
-/

namespace TdsClient.Number

namespace Decimal

/-- The exact decimal value of a binary number. -/
def ofBinary64 : Binary64 → Decimal
  | .nan => .nan false false 0
  | .infinite negative => .infinite negative
  | .finite negative mantissa exponent =>
    if 0 ≤ exponent then .finite negative (mantissa * Nat.pow 2 exponent.toNat) 0
    else .finite negative (mantissa * Nat.pow 5 (-exponent).toNat) exponent

/-- Order of two positive magnitudes: by the place of the first digit, then digit by digit. -/
def compareMagnitude (c : Nat) (e : Int) (c' : Nat) (e' : Int) : Ordering :=
  let place := (Digits.digitCount c : Int) + e
  let place' := (Digits.digitCount c' : Int) + e'
  if place < place' then .lt
  else if place' < place then .gt
  else
    let low := min e e'
    compare (c * Nat.pow 10 (e - low).toNat) (c' * Nat.pow 10 (e' - low).toNat)

/-- Minus one, zero or one with the sign of a finite number or an infinity. -/
def sign : Decimal → Int
  | .finite negative coefficient _ => if coefficient = 0 then 0 else if negative then -1 else 1
  | .infinite negative => if negative then -1 else 1
  | .nan .. => 0

/-- Order of the magnitudes of two numbers that are not NaNs. -/
def compareAbs : Decimal → Decimal → Ordering
  | .infinite _, .infinite _ => .eq
  | .infinite _, _ => .gt
  | _, .infinite _ => .lt
  | .finite _ c e, .finite _ c' e' => compareMagnitude c e c' e'
  | _, _ => .eq

/-- Whether a number is a NaN of either kind. -/
def isNaN : Decimal → Bool
  | .nan .. => true
  | _ => false

/-- Whether a number is a signaling NaN. -/
def isSignaling : Decimal → Bool
  | .nan _ signaling _ => signaling
  | _ => false

/-- Order of two numbers by value, nothing if either is a NaN. -/
def compare? (a b : Decimal) : Option Ordering :=
  if a.isNaN || b.isNaN then none
  else if a.sign ≠ b.sign then some (compare a.sign b.sign)
  else if a.sign = 0 then some .eq
  else if a.sign = 1 then some (compareAbs a b)
  else some (compareAbs b a)

end Decimal

end TdsClient.Number
