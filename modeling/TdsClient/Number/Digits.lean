/-!
# Decimal digits

Natural numbers as runs of decimal digits: how many digits a number has,
its digits as text, and the number a run of digits stands for.

`digitCount` is the length of the written form, so zero has one digit.
`value` reads a run most significant digit first and is total: what counts
as a digit is the caller's concern, and each item already is a number
below ten.

## Main results

* `digitCount_pos` — every number has a digit.
* `lt_pow_digitCount` — a number with `k` digits is below `10 ^ k`.
-/

namespace TdsClient.Number.Digits

/-- Number of decimal digits of `n`; zero is written with one digit. -/
def digitCount (n : Nat) : Nat :=
  if n < 10 then 1 else digitCount (n / 10) + 1
termination_by n
decreasing_by omega

theorem digitCount_pos (n : Nat) : 0 < digitCount n := by
  unfold digitCount; split <;> omega

/-- A number with `k` digits is below `10 ^ k`. -/
theorem lt_pow_digitCount (n : Nat) : n < Nat.pow 10 (digitCount n) := by
  fun_induction digitCount n with
  | case1 n h => simpa using h
  | case2 n h ih =>
    show n < Nat.pow 10 (digitCount (n / 10)) * 10
    omega

/-- The number a run of digits stands for, most significant digit first. -/
def value (digits : List Nat) : Nat :=
  digits.foldl (fun n d => 10 * n + d) 0

/-- The value of an ASCII digit, and nothing for any other character. -/
def ofChar? (c : Char) : Option Nat :=
  if c.isDigit then some (c.toNat - '0'.toNat) else none

/-- The number written by a text of ASCII digits, if it is one. -/
def parse? (text : List Char) : Option Nat :=
  if text.isEmpty then none else (text.mapM ofChar?).map value

/-- The written form of a number. -/
def text (n : Nat) : String := Nat.repr n

/-- The written form of a number, filled up with leading zeros to `width` characters. -/
def padded (width n : Nat) : String :=
  let written := text n
  String.ofList (List.replicate (width - written.length) '0') ++ written

/-- The hexadecimal written form of a number in lower case, filled up to `width` characters. -/
def hex (width n : Nat) : String :=
  let written := Nat.toDigits 16 n
  String.ofList (List.replicate (width - written.length) '0' ++ written)

end TdsClient.Number.Digits
