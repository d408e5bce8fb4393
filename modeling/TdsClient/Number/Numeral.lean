import TdsClient.Number.Digits

/-!
# Decimal numerals

The common written form of a number with a point and an exponent:
an optional sign, digits with at most one point among or beside them, and
an optional exponent after `e` or `E`. At least one digit is needed
before the exponent, on either side of the point.

A numeral keeps what was written and computes nothing: `1.50` is the
coefficient `150` with exponent `-2`.
-/

namespace TdsClient.Number

/-- A numeral as written: the value is `coefficient * 10 ^ exponent`, negated if `negative`. -/
structure Numeral where
  negative : Bool
  coefficient : Nat
  exponent : Int
deriving DecidableEq

namespace Numeral

/-- Reads an optional sign in front of a text. -/
def splitSign : List Char → Bool × List Char
  | '-' :: rest => (true, rest)
  | '+' :: rest => (false, rest)
  | rest => (false, rest)

/-- Reads an optional exponent that makes up a whole text; nothing at all is exponent zero. -/
def exponent? : List Char → Option Int
  | [] => some 0
  | mark :: rest =>
    if mark = 'e' ∨ mark = 'E' then
      let (negative, digits) := splitSign rest
      (Digits.parse? digits).map fun n => if negative then -(n : Int) else n
    else none

/-- Reads a numeral without sign, with the sign given beside it. -/
def unsigned? (negative : Bool) (text : List Char) : Option Numeral :=
  let whole := text.takeWhile Char.isDigit
  let rest := text.dropWhile Char.isDigit
  let (fraction, rest) := match rest with
    | '.' :: rest => (rest.takeWhile Char.isDigit, rest.dropWhile Char.isDigit)
    | rest => ([], rest)
  match Digits.parse? (whole ++ fraction), exponent? rest with
  | some coefficient, some e => some ⟨negative, coefficient, e - fraction.length⟩
  | _, _ => none

/-- Reads a numeral with an optional sign. -/
def parse? (text : List Char) : Option Numeral :=
  let (negative, rest) := splitSign text
  unsigned? negative rest

end Numeral

end TdsClient.Number
