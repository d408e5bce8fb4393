import TdsClient.Value.Basic

/-!
# Values as sequences

Where the library takes several values at once it takes them from one
value: a row of parameters, a table row, an iterable of rows. This module
says what each kind of value offers.

* `Value.sequence?` — the items of a value that can stand for a row. Text
  and constant byte strings are sequences too, but never meant as a row.
* `Value.entries?` — the entries of a mapping.
* `Value.items?` — what iteration yields.
* `Value.toBytes` — a value as a byte string.
* `Value.isCopyable` — whether a value can be copied with all it holds.

## Main results

* `items?_of_sequence?` — a sequence can be iterated, with the same items.
-/

namespace TdsClient

/-- Why a value cannot be made a byte string. -/
inductive BytesError
  | noConversion
  | byteOutOfRange
  | negativeSize
  | sizeTooLarge
  | noMemory
deriving DecidableEq

namespace Value

/-- The bytes as integers. -/
def byteItems (b : Bytes) : List Value := b.map fun x => .int x.toNat

/-- The range of 0 and 1. -/
def rangeItems : List Value := [.int 0, .int 1]

/-- The items of a value that can stand for a row. -/
def sequence? : Value → Option (List Value)
  | .list items => some items
  | .tuple items => some items
  | .byteArray b => some (byteItems b)
  | .memoryView b => some (byteItems b)
  | .foreign .range => some rangeItems
  | _ => none

/-- The entries of a mapping. -/
def entries? : Value → Option (List (Value × Value))
  | .dictionary entries => some entries
  | _ => none

/-- What iteration over a value yields: the characters of a text, the keys of a dictionary. -/
def items? : Value → Option (List Value)
  | .text s => some (s.toList.map fun c => .text c.toString)
  | .bytes b => some (byteItems b)
  | .dictionary entries => some (entries.map Prod.fst)
  | .stream items => some items
  | .set items => some items
  | value => value.sequence?

/-- A sequence can be iterated, with the same items. -/
theorem items?_of_sequence? {value : Value} {items : List Value}
    (h : value.sequence? = some items) : value.items? = some items := by
  cases value with
  | foreign kind => cases kind <;> simp_all [sequence?, items?]
  | _ => simp_all [sequence?, items?]

/-- An item as a byte. -/
def toByte : Value → Except BytesError UInt8
  | .bool b => .ok (if b then 1 else 0)
  | .int n => if 0 ≤ n ∧ n < 256 then .ok (UInt8.ofNat n.toNat) else .error .byteOutOfRange
  | _ => .error .noConversion

/-- Byte strings of this size and more do not fit in memory. -/
def memoryLimit : Int := 1099511627776

/-- A count of zero bytes. -/
def zeroBytes (n : Int) : Except BytesError Bytes :=
  if !IntegerWidth.big.holds n then .error .sizeTooLarge
  else if n < 0 then .error .negativeSize
  else if memoryLimit ≤ n then .error .noMemory
  else .ok (List.replicate n.toNat 0)

/-- A value as a byte string: a count gives as many zeros, text has no bytes of its own, and
any other iterable gives its items. -/
def toBytes : Value → Except BytesError Bytes
  | .bool b => zeroBytes (if b then 1 else 0)
  | .int n => zeroBytes n
  | .text _ => .error .noConversion
  | .bytes b => .ok b
  | .byteArray b => .ok b
  | .memoryView b => .ok b
  | value =>
    match value.items? with
    | some items => items.mapM toByte
    | none => .error .noConversion

mutual

/-- Whether a value, with all it holds, can be copied: a view of memory and a stream cannot. -/
def isCopyable : Value → Bool
  | .memoryView _ => false
  | .stream _ => false
  | .list items => areCopyable items
  | .tuple items => areCopyable items
  | .dictionary entries => entriesCopyable entries
  | .set items => areCopyable items
  | .parameter value _ => isCopyable value
  | .typed (.untyped value _) => isCopyable value
  | _ => true

/-- Whether all items can be copied. -/
def areCopyable : List Value → Bool
  | [] => true
  | item :: rest => isCopyable item && areCopyable rest

/-- Whether all keys and values can be copied. -/
def entriesCopyable : List (Value × Value) → Bool
  | [] => true
  | (key, value) :: rest => isCopyable key && isCopyable value && entriesCopyable rest

end

end Value

end TdsClient
