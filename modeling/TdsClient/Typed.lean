import TdsClient.Calendar
import TdsClient.Text.Utf16
import TdsClient.TypeCode

/-!
# Values with an explicit type

A caller who does not want the type of a parameter inferred wraps the
value. A wrapper fixes the family of the type and sometimes its size; a
wrapped null still has a type. Numbers of the decimal family and untyped
wrappers hold a value of any kind, so the type of values is a parameter.

What may be wrapped is checked where wrappers are built; this module holds
the wrappers and what they report about themselves.

## Main definitions

* `Typed` — the wrappers.
* `Typed.size?` — the size a wrapper reports: its own, or the natural one of its value.
-/

namespace TdsClient

/-- A string of bytes. -/
abbrev Bytes := List UInt8

/-- The widths of integers. -/
inductive IntegerWidth
  | tiny
  | small
  | regular
  | big
deriving DecidableEq

namespace IntegerWidth

/-- Smallest integer of a width; the one-byte integers have no sign. -/
def low : IntegerWidth → Int
  | .tiny => 0
  | .small => -32768
  | .regular => -2147483648
  | .big => -9223372036854775808

/-- Largest integer of a width. -/
def high : IntegerWidth → Int
  | .tiny => 255
  | .small => 32767
  | .regular => 2147483647
  | .big => 9223372036854775807

/-- Whether an integer has a width. -/
def holds (width : IntegerWidth) (n : Int) : Bool := width.low ≤ n ∧ n ≤ width.high

end IntegerWidth

/-- A value, or null, with an explicit type. -/
inductive Typed (α : Type)
  | untyped (value : α) (size : Option Int)
  | integer (width : IntegerWidth) (value : Option Int)
  | decimal (value : α) (precision scale : Nat)
  | binary (value : Option Bytes)
  | varBinary (value : Option Bytes) (size : Option Nat)
  | char (value : Option String)
  | varChar (value : Option String) (size : Option Nat)
  | nvarChar (value : Option String) (size : Option Nat)
  | date (value : Option Date)

namespace Typed

variable {α : Type}

/-- The code of the family. -/
def typeCode : Typed α → TypeCode
  | .untyped .. => .void
  | .integer .tiny _ => .tinyInt
  | .integer .small _ => .smallInt
  | .integer .regular _ => .int
  | .integer .big _ => .bigInt
  | .decimal .. => .decimal
  | .binary _ => .binary
  | .varBinary .. => .varBinary
  | .char _ => .char
  | .varChar .. => .varChar
  | .nvarChar .. => .nvarChar
  | .date _ => .date

/-- The name of the wrapper. -/
def name : Typed α → String
  | .untyped .. => "SqlType"
  | .integer .tiny _ => "SqlTinyInt"
  | .integer .small _ => "SqlSmallInt"
  | .integer .regular _ => "SqlInt"
  | .integer .big _ => "SqlBigInt"
  | .decimal .. => "SqlDecimal"
  | .binary _ => "SqlBinary"
  | .varBinary .. => "SqlVarBinary"
  | .char _ => "SqlChar"
  | .varChar .. => "SqlVarChar"
  | .nvarChar .. => "SqlNVarChar"
  | .date _ => "SqlDate"

/-- Size reported by types that have none. -/
def noSize : Int := -1

/-- The size a wrapper reports. Without an explicit size it is the natural one: the number of
bytes, characters or code units, and for null the size of the least the type can hold. -/
def size? : Typed α → Option Int
  | .untyped _ size => size
  | .integer .. => some noSize
  | .decimal .. => some noSize
  | .binary value => some ((value.map fun b => max 1 b.length).getD 1)
  | .varBinary value size => some (size.getD ((value.map List.length).getD 0))
  | .char value => some ((value.map String.length).getD 1)
  | .varChar value size => some (size.getD ((value.map String.length).getD 1))
  | .nvarChar value size => some (size.getD ((value.map Text.Utf16.length).getD 0))
  | .date _ => some noSize

end Typed

end TdsClient
