import TdsClient.Number.Digits
import TdsClient.Number.Numeral
import TdsClient.Number.Rounding

/-!
# Binary floating point numbers of 64 bits

A finite number is a signed mantissa times a power of two. The numbers
made here are the ones of the standard 64-bit format: a mantissa below
`2 ^ 53` and an exponent between `-1074` and `971`, the mantissa at least
`2 ^ 52` unless the exponent is the smallest.

Reading a decimal numeral rounds its exact value to the nearest of these
numbers, a tie going to the even mantissa. Writing gives the fewest digits
that read back as the same number, and of these the nearest: `shortest`
looks for the coarsest power of ten that has a multiple in the interval of
reals rounding to the number.

## Main definitions

* `Binary64.nearest` — the number nearest to a rational.
* `Binary64.shortest` — the shortest decimal that reads back.
* `Binary64.text` — the written form, positional from `1e-4` up to below `1e16`.
-/

namespace TdsClient.Number

/-- A number of the 64-bit binary format; zero keeps its sign. -/
inductive Binary64
  | nan
  | infinite (negative : Bool)
  | finite (negative : Bool) (mantissa : Nat) (exponent : Int)
deriving DecidableEq

namespace Binary64

/-- The smallest mantissa of a number whose exponent is not the smallest, `2 ^ 52`. -/
def minMantissa : Nat := 4503599627370496

/-- Exponent of the smallest positive number. -/
def minExponent : Int := -1074

/-- Largest exponent of a finite number. -/
def maxExponent : Int := 971

/-- The zero of a sign. -/
def zero (negative : Bool) : Binary64 := .finite negative 0 minExponent

/-- The exponent `e` with `2 ^ e ≤ x < 2 ^ (e + 1)`, for a positive `x`. -/
def binaryExponent (x : Rat) : Int :=
  let e := (x.num.natAbs.log2 : Int) - x.den.log2
  if x < (2 : Rat) ^ e then e - 1 else e

/-- The number nearest to `x`, a tie going to the even mantissa; too large a
magnitude gives an infinity. The sign is given beside the magnitude. -/
def nearest (negative : Bool) (x : Rat) : Binary64 :=
  if x = 0 then zero negative
  else
    let e := max (binaryExponent x - 52) minExponent
    let m := (Rounding.halfEven (x / (2 : Rat) ^ e)).toNat
    let (m, e) := if m = 2 * minMantissa then (minMantissa, e + 1) else (m, e)
    if maxExponent < e then .infinite negative else .finite negative m e

/-- The number a decimal numeral stands for. Magnitudes far outside the
format are recognised by their number of digits alone. -/
def ofNumeral (n : Numeral) : Binary64 :=
  let magnitude := (Digits.digitCount n.coefficient : Int) + n.exponent
  if n.coefficient = 0 then zero n.negative
  else if 310 < magnitude then .infinite n.negative
  else if magnitude < -330 then zero n.negative
  else nearest n.negative (n.coefficient * (10 : Rat) ^ n.exponent)

/-- Reads a numeral, `inf` or `nan`, each with an optional sign. -/
def parse? (text : String) : Option Binary64 :=
  let (negative, rest) := Numeral.splitSign text.toList
  if rest = "inf".toList then some (.infinite negative)
  else if rest = "nan".toList then some .nan
  else (Numeral.unsigned? negative rest).map ofNumeral

/-- The number nearest to a rational of either sign. -/
def ofRat (x : Rat) : Binary64 := nearest (x < 0) x.abs

/-- The exact value of a finite number. -/
def magnitude (mantissa : Nat) (exponent : Int) : Rat :=
  mantissa * (2 : Rat) ^ exponent

/-- The exact value of a number, if it is finite. -/
def toRat? : Binary64 → Option Rat
  | .finite negative mantissa exponent =>
    some (if negative then -magnitude mantissa exponent else magnitude mantissa exponent)
  | _ => none

/-- Whether a positive real rounds to `mantissa * 2 ^ exponent`: it lies within half the
distance to either neighbour, the ends included when the mantissa is even. -/
def roundsTo (mantissa : Nat) (exponent : Int) (x : Rat) : Bool :=
  let v := magnitude mantissa exponent
  let above := (2 : Rat) ^ (exponent - 1)
  let below := if mantissa = minMantissa ∧ minExponent < exponent then above / 2 else above
  if mantissa % 2 = 0 then v - below ≤ x ∧ x ≤ v + above
  else v - below < x ∧ x < v + above

/-- Of the two multiples of `10 ^ grid` around `v` the nearest that rounds to the number,
the even one on a tie, if either does. -/
def onGrid? (mantissa : Nat) (exponent grid : Int) : Option Nat :=
  let v := magnitude mantissa exponent
  let unit := (10 : Rat) ^ grid
  let low := (v / unit).floor.toNat
  let rest := v / unit - low
  let hit (n : Nat) := roundsTo mantissa exponent (n * unit)
  match hit low, hit (low + 1) with
  | false, false => none
  | true, false => some low
  | false, true => some (low + 1)
  | true, true =>
    if rest < 1 / 2 then some low
    else if 1 / 2 < rest then some (low + 1)
    else some (if low % 2 = 0 then low else low + 1)

/-- Searches the grids from coarse to fine. -/
def searchGrids (mantissa : Nat) (exponent : Int) : Nat → Int → Nat × Int
  | 0, grid => ((magnitude mantissa exponent / (10 : Rat) ^ grid).floor.toNat, grid)
  | steps + 1, grid =>
    match onGrid? mantissa exponent grid with
    | some n => (n, grid)
    | none => searchGrids mantissa exponent steps (grid - 1)

/-- The shortest decimal `n * 10 ^ grid` that reads back as a positive number. The search
starts above every decimal that could and ends at the latest where the number itself is a
multiple of the grid. -/
def shortest (mantissa : Nat) (exponent : Int) : Nat × Int :=
  let v := magnitude mantissa exponent
  let start : Int :=
    if 1 ≤ v then Digits.digitCount v.floor.toNat
    else 1 - Digits.digitCount (1 / v).floor.toNat
  searchGrids mantissa exponent (start - minExponent + 1).toNat start

/-- A decimal of a number's shortest digits: positional for exponents from `-4` to `15`, with
at least one digit on either side of the point, and in scientific notation with a sign and two
digits of exponent otherwise. -/
def decimalText (n : Nat) (grid : Int) : String :=
  let digits := Digits.text n
  let scientific := (digits.length : Int) - 1 + grid
  let zeros (k : Int) := String.ofList (List.replicate k.toNat '0')
  if -4 ≤ scientific ∧ scientific < 16 then
    if 0 ≤ grid then digits ++ zeros grid ++ ".0"
    else if 0 ≤ scientific then
      let whole := (digits.toList.take (scientific + 1).toNat)
      let fraction := (digits.toList.drop (scientific + 1).toNat)
      String.ofList whole ++ "." ++ String.ofList fraction
    else "0." ++ zeros (-scientific - 1) ++ digits
  else
    let fraction := digits.toList.drop 1
    String.ofList (digits.toList.take 1)
      ++ (if fraction.isEmpty then "" else "." ++ String.ofList fraction)
      ++ "e" ++ (if scientific < 0 then "-" else "+")
      ++ Digits.padded 2 scientific.natAbs

/-- The written form of a number. -/
def text : Binary64 → String
  | .nan => "nan"
  | .infinite negative => if negative then "-inf" else "inf"
  | .finite negative mantissa exponent =>
    (if negative then "-" else "") ++
      if mantissa = 0 then "0.0"
      else
        let (n, grid) := shortest mantissa exponent
        decimalText n grid

end Binary64

end TdsClient.Number
