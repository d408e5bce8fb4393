import TdsClient.Number.Binary64
import TdsClient.Number.Decimal.Basic
import TdsClient.Typed
import TdsClient.Uuid

/-!
# Values

The values that programs pass as parameters and find in rows. Values are
dynamic: a parameter may turn out to be of a kind that has no SQL type,
and a list may stand where a number is wanted, and each of these has an
outcome of its own. A dictionary is its list of entries in insertion
order; `Value.dictionary?` builds one from entries with repeated keys. A
set is the list of its items in the order in which it gives them.

A few kinds of value only occur where they are refused or compared. They
are collected in `Foreign`, each of them one fixed value.

## Main definitions

* `Value` — the values.
* `Value.kind` — the name of a value's kind, as messages give it.
-/

namespace TdsClient

open Number

/-- Fixed values of kinds that the library has no use for: a complex number, an object without
properties, a span of time, and the range of 0 and 1. -/
inductive Foreign
  | complex
  | object
  | duration
  | range
deriving DecidableEq

/-- A value. A stream is read once; a parameter is a value that may be returned by the
statement it is passed to. -/
inductive Value
  | null
  | bool (b : Bool)
  | int (n : Int)
  | float (x : Binary64)
  | decimal (d : Decimal)
  | text (s : String)
  | bytes (b : Bytes)
  | byteArray (b : Bytes)
  | memoryView (b : Bytes)
  | dateTime (t : DateTime)
  | date (d : Date)
  | time (t : Time)
  | uuid (u : Uuid)
  | list (items : List Value)
  | tuple (items : List Value)
  | dictionary (entries : List (Value × Value))
  | set (items : List Value)
  | stream (items : List Value)
  | foreign (kind : Foreign)
  | parameter (value : Value) (output : Bool)
  | typed (wrapper : Typed Value)

instance : Inhabited Value := ⟨.null⟩

namespace Value

/-- The name of a value's kind, as messages give it. -/
def kind : Value → String
  | .null => "NoneType"
  | .bool _ => "bool"
  | .int _ => "int"
  | .float _ => "float"
  | .decimal _ => "Decimal"
  | .text _ => "str"
  | .bytes _ => "bytes"
  | .byteArray _ => "bytearray"
  | .memoryView _ => "memoryview"
  | .dateTime _ => "datetime"
  | .date _ => "date"
  | .time _ => "time"
  | .uuid _ => "UUID"
  | .list _ => "list"
  | .tuple _ => "tuple"
  | .dictionary _ => "dict"
  | .set _ => "set"
  | .stream _ => "generator"
  | .foreign .complex => "complex"
  | .foreign .object => "object"
  | .foreign .duration => "timedelta"
  | .foreign .range => "range"
  | .parameter .. => "Parameter"
  | .typed w => w.name

/-- The contents of the three kinds of byte strings. -/
def asBytes? : Value → Option Bytes
  | .bytes b => some b
  | .byteArray b => some b
  | .memoryView b => some b
  | _ => none

/-- Whether a value is a certain text. -/
def isText (value : Value) (name : String) : Bool :=
  match value with
  | .text s => s = name
  | _ => false

/-- The plain value of one that may be wrapped. -/
def unwrap : Value → Value
  | .typed (.untyped value _) => value
  | .typed (.integer _ value) => (value.map .int).getD .null
  | .typed (.decimal value _ _) => value
  | .typed (.binary value) => (value.map .bytes).getD .null
  | .typed (.varBinary value _) => (value.map .bytes).getD .null
  | .typed (.char value) => (value.map .text).getD .null
  | .typed (.varChar value _) => (value.map .text).getD .null
  | .typed (.nvarChar value _) => (value.map .text).getD .null
  | .typed (.date value) => (value.map .date).getD .null
  | value => value

/-- The whole number that a value is. Truth values are the numbers zero and one. -/
def integer? : Value → Option Int
  | .int n => some n
  | .bool b => some b.toNat
  | _ => none

/-- Whether a value counts as true: numbers other than zero, and text, bytes and containers
that are not empty; a NaN and values of all other kinds but null do as well. -/
def isTrue : Value → Bool
  | .null => false
  | .bool b => b
  | .int n => n ≠ 0
  | .float (.finite _ mantissa _) => mantissa ≠ 0
  | .decimal (.finite _ coefficient _) => coefficient ≠ 0
  | .text s => !s.isEmpty
  | .bytes b => !b.isEmpty
  | .byteArray b => !b.isEmpty
  | .memoryView b => !b.isEmpty
  | .list items => !items.isEmpty
  | .tuple items => !items.isEmpty
  | .dictionary entries => !entries.isEmpty
  | .set items => !items.isEmpty
  | _ => true

end Value

end TdsClient
