import TdsClient.Number.Digits
import TdsClient.Text.Printable

/-!
# Quoted literals

Text and byte strings as literals of a program: between single quotes, or
between double quotes if that saves escaping. The backslash and the quote
in use are escaped, a few control characters have short escapes, and what
is not printable is written by its number.

Bytes beyond ASCII and all control bytes are written by their number, so
the literal of a byte string is ASCII.
-/

namespace TdsClient.Text.Quoted

/-- The quote around a literal: double if only single quotes occur inside. -/
def quoteFor (text : List Char) : Char :=
  if '\'' ∈ text ∧ '"' ∉ text then '"' else '\''

/-- A backslash followed by a letter. -/
def escaped (c : Char) : List Char := ['\\', c]

/-- A character by its number: two, four or eight hexadecimal digits. -/
def numbered (code : Nat) : List Char :=
  if code < 0x100 then escaped 'x' ++ (Number.Digits.hex 2 code).toList
  else if code < 0x10000 then escaped 'u' ++ (Number.Digits.hex 4 code).toList
  else escaped 'U' ++ (Number.Digits.hex 8 code).toList

/-- Short escapes of the backslash, the quote in use and three control characters. -/
def shortEscape? (quote c : Char) : Option (List Char) :=
  if c = '\\' ∨ c = quote then some (escaped c)
  else if c = '\t' then some (escaped 't')
  else if c = '\n' then some (escaped 'n')
  else if c = '\r' then some (escaped 'r')
  else none

/-- A character inside a text literal. -/
def escapeChar (quote c : Char) : List Char :=
  match shortEscape? quote c with
  | some e => e
  | none => if Printable.isPrintable c then [c] else numbered c.toNat

/-- The literal of a text. -/
def ofText (text : String) : String :=
  let quote := quoteFor text.toList
  String.ofList (quote :: (text.toList.flatMap (escapeChar quote) ++ [quote]))

/-- A byte inside a byte string literal. -/
def escapeByte (quote : Char) (b : UInt8) : List Char :=
  let c := Char.ofNat b.toNat
  match shortEscape? quote c with
  | some e => e
  | none => if 0x20 ≤ b ∧ b < 0x7f then [c] else numbered b.toNat

/-- The literal of a byte string. -/
def ofBytes (bytes : List UInt8) : String :=
  let quote := quoteFor (bytes.map fun b => Char.ofNat b.toNat)
  String.ofList ('b' :: quote :: (bytes.flatMap (escapeByte quote) ++ [quote]))

end TdsClient.Text.Quoted
