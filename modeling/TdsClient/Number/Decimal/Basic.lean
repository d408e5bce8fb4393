import TdsClient.Number.Digits
import TdsClient.Number.Numeral
import TdsClient.Text.Blank
import TdsClient.Text.Digit

/-!
# Decimal numbers

Decimal floating point numbers of the General Decimal Arithmetic: a
finite number is a sign, a coefficient and an exponent of ten, so `1.5`
and `1.50` are different numbers of equal value; infinities and the two
kinds of NaN stand beside them.

`Decimal.text` writes a number by the rule *to-scientific-string* and
`Decimal.parse?` reads numerals of the same standard, digits of any
script, surrounding blanks and underscores allowed.

## Main definitions

* `Decimal.digits` — how many digits the coefficient has.
* `Decimal.text`, `Decimal.parse?` — written forms.
-/

namespace TdsClient.Number

/-- A decimal number. The payload of a NaN is zero when none was given. -/
inductive Decimal
  | finite (negative : Bool) (coefficient : Nat) (exponent : Int)
  | infinite (negative : Bool)
  | nan (negative signaling : Bool) (payload : Nat)
deriving DecidableEq

namespace Decimal

/-- Whether a number is neither infinite nor a NaN. -/
def isFinite : Decimal → Bool
  | .finite .. => true
  | _ => false

/-- An integer as a decimal number with exponent zero. -/
def ofInt (n : Int) : Decimal := .finite (n < 0) n.natAbs 0

/-- Largest exponent of the first digit. -/
def maxAdjusted : Int := 999999999999999999

/-- Smallest exponent of the last digit. -/
def minExponent : Int := -1999999999999999997

/-- Whether a finite number has the format's exponents. -/
def inFormat (coefficient : Nat) (exponent : Int) : Bool :=
  minExponent ≤ exponent ∧
    exponent + (if coefficient = 0 then 0 else (Digits.digitCount coefficient : Int) - 1) ≤
      maxAdjusted

/-! ## Writing -/

/-- A finite magnitude: plain when the exponent is not positive and the first digit stands
at most six places behind the point, in scientific notation otherwise. -/
def magnitudeText (coefficient : Nat) (exponent : Int) : String :=
  let digits := Digits.text coefficient
  let adjusted := (digits.length : Int) - 1 + exponent
  if exponent ≤ 0 ∧ -6 ≤ adjusted then
    if exponent = 0 then digits
    else if 0 ≤ adjusted then
      String.ofList (digits.toList.take (adjusted + 1).toNat) ++ "." ++
        String.ofList (digits.toList.drop (adjusted + 1).toNat)
    else "0." ++ String.ofList (List.replicate (-adjusted - 1).toNat '0') ++ digits
  else
    let rest := digits.toList.drop 1
    String.ofList (digits.toList.take 1) ++ (if rest.isEmpty then "" else "." ++ String.ofList rest)
      ++ "E" ++ (if adjusted < 0 then "-" else "+") ++ Digits.text adjusted.natAbs

/-- The written form of a number. -/
def text : Decimal → String
  | .finite negative coefficient exponent =>
    (if negative then "-" else "") ++ magnitudeText coefficient exponent
  | .infinite negative => (if negative then "-" else "") ++ "Infinity"
  | .nan negative signaling payload =>
    (if negative then "-" else "") ++ (if signaling then "sNaN" else "NaN") ++
      (if payload = 0 then "" else Digits.text payload)

/-! ## Reading -/

/-- A digit of any script becomes the ASCII digit of the same value. -/
def asciiDigit (c : Char) : Char :=
  match Text.Digit.value? c with
  | some d => Char.ofNat ('0'.toNat + d)
  | none => c

/-- The payload of a NaN, zero if there is none. -/
def payload? : List Char → Option Nat
  | [] => some 0
  | digits => Digits.parse? digits

/-- Reads a number without its sign from ASCII text. -/
def unsigned? (negative : Bool) (text : List Char) : Option Decimal :=
  let lower := text.map Char.toLower
  if lower = "inf".toList ∨ lower = "infinity".toList then some (.infinite negative)
  else if "nan".toList.isPrefixOf lower then
    (payload? (lower.drop 3)).map (.nan negative false ·)
  else if "snan".toList.isPrefixOf lower then
    (payload? (lower.drop 4)).map (.nan negative true ·)
  else
    match Numeral.unsigned? negative text with
    | some n =>
      if inFormat n.coefficient n.exponent then some (.finite negative n.coefficient n.exponent)
      else none
    | none => none

/-- Reads a number. Blanks around it and underscores in it do not count. -/
def parse? (text : String) : Option Decimal :=
  let plain := ((Text.Blank.trim text.toList).filter (· ≠ '_')).map asciiDigit
  let (negative, rest) := Numeral.splitSign plain
  unsigned? negative rest

end Decimal

end TdsClient.Number
