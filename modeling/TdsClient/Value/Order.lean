import TdsClient.Number.Order
import TdsClient.Value.Basic

/-!
# Equality and order of values

Values of unlike kinds can be equal: numbers of every kind compare by
their exact value, and byte strings of every kind by their bytes. Unlike
kinds that are not of one of these families are unequal, and have no
order. A comparison can fail: an order is asked for that does not exist,
or a NaN is compared in a way that signals.

A parameter compares like the value in it. A value on the left of a
parameter leaves the comparison to the parameter, so `v < p` is asked as
`p > v`, and a parameter answers that as *neither less nor equal*.

## Main definitions

* `Value.equal`, `Value.less` — equality and strict order.
* `Comparison` — the six comparisons of a parameter with a value, derived
  from these two.
* `Value.dictionary?` — a dictionary from entries with repeated keys.
-/

namespace TdsClient

open Number

/-- Why two values cannot be compared. -/
inductive CompareError
  | unordered
  | signalingNaN
deriving DecidableEq

namespace Value

/-- The exact value of a number; truth values count as one and zero. -/
def asNumber? : Value → Option Decimal
  | .bool b => some (.ofInt (if b then 1 else 0))
  | .int n => some (.ofInt n)
  | .float x => some (.ofBinary64 x)
  | .decimal d => some d
  | _ => none

/-- Whether a value is a decimal number. -/
def isDecimal : Value → Bool
  | .decimal _ => true
  | _ => false

/-- Equality of values that hold no others. A signaling NaN cannot be compared with a number. -/
def equalAtoms (a b : Value) : Except CompareError Bool :=
  match a.asNumber?, b.asNumber? with
  | some m, some n =>
    if m.isSignaling || n.isSignaling then .error .signalingNaN
    else .ok (m.compare? n = some .eq)
  | _, _ =>
    match a.asBytes?, b.asBytes? with
    | some s, some t => .ok (s = t)
    | _, _ =>
      match a, b with
      | .null, .null => .ok true
      | .text s, .text t => .ok (s = t)
      | .dateTime s, .dateTime t => .ok (s = t)
      | .date s, .date t => .ok (s = t)
      | .time s, .time t => .ok (s = t)
      | .uuid s, .uuid t => .ok (s = t)
      | .foreign s, .foreign t => .ok (s = t ∧ s ≠ .object)
      | _, _ => .ok false

/-- Order of byte strings of several kinds: two constant ones, or any two of which one can be
changed. -/
def lessBytes (a b : Value) (s t : Bytes) : Except CompareError Bool :=
  match a, b with
  | .bytes _, .bytes _ => .ok (s < t)
  | .byteArray _, _ => .ok (s < t)
  | _, .byteArray _ => .ok (s < t)
  | _, _ => .error .unordered

/-- Order of values that hold no others. With a decimal number on either side a NaN signals. -/
def lessAtoms (a b : Value) : Except CompareError Bool :=
  match a.asNumber?, b.asNumber? with
  | some m, some n =>
    match m.compare? n with
    | some order => .ok (order = .lt)
    | none => if a.isDecimal || b.isDecimal then .error .signalingNaN else .ok false
  | _, _ =>
    match a.asBytes?, b.asBytes? with
    | some s, some t => lessBytes a b s t
    | _, _ =>
      match a, b with
      | .text s, .text t => .ok (s < t)
      | .dateTime s, .dateTime t => .ok (s.fields < t.fields)
      | .date s, .date t => .ok (s.fields < t.fields)
      | .time s, .time t => .ok (s.fields < t.fields)
      | .uuid s, .uuid t => .ok (s.word < t.word)
      | .foreign .duration, .foreign .duration => .ok false
      | _, _ => .error .unordered

mutual

/-- Whether two values are equal. -/
def equal (a b : Value) : Except CompareError Bool :=
  match a, b with
  | .parameter v _, .parameter w _ => equal v w
  | .parameter v _, w => equal v w
  | v, .parameter w _ => equal w v
  | .list xs, .list ys => if xs.length = ys.length then equalItems xs ys else .ok false
  | .tuple xs, .tuple ys => do
    if (← equalItems xs ys) then .ok (xs.length = ys.length) else .ok false
  | .dictionary xs, .dictionary ys =>
    if xs.length = ys.length then equalEntries xs ys else .ok false
  | .set xs, .set ys => .ok (xs.length = ys.length && isSubset xs ys)
  | v, w => equalAtoms v w
termination_by sizeOf a + sizeOf b

/-- Whether the items at each common position are equal. -/
def equalItems (xs ys : List Value) : Except CompareError Bool :=
  match xs, ys with
  | x :: xs, y :: ys => do
    if (← equal x y) then equalItems xs ys else .ok false
  | _, _ => .ok true
termination_by sizeOf xs + sizeOf ys

/-- Whether each entry is found among others. -/
def equalEntries (xs ys : List (Value × Value)) : Except CompareError Bool :=
  match xs with
  | [] => .ok true
  | (key, value) :: xs => do
    if (← equalEntry key value ys) then equalEntries xs ys else .ok false
termination_by sizeOf xs + sizeOf ys

/-- Whether the first entry with a key has a value. -/
def equalEntry (key value : Value) (ys : List (Value × Value)) : Except CompareError Bool :=
  match ys with
  | [] => .ok false
  | (key', value') :: ys => do
    if (← equal key key') then equal value value' else equalEntry key value ys
termination_by sizeOf key + sizeOf value + sizeOf ys

/-- Whether each item is found among others. -/
def isSubset (xs ys : List Value) : Bool :=
  match xs with
  | [] => true
  | x :: xs => isElement x ys && isSubset xs ys
termination_by sizeOf xs + sizeOf ys

/-- Whether an item is found among others. Items of sets can always be compared. -/
def isElement (x : Value) (ys : List Value) : Bool :=
  match ys with
  | [] => false
  | y :: ys => (equal x y matches .ok true) || isElement x ys
termination_by sizeOf x + sizeOf ys

end

mutual

/-- Whether a value is less than another. -/
def less (a b : Value) : Except CompareError Bool :=
  match a, b with
  | .parameter v _, .parameter w _ => less v w
  | .parameter v _, w => less v w
  | v, .parameter w _ => do
    if (← less w v) then .ok false else return !(← equal w v)
  | .list xs, .list ys => lessItems xs ys
  | .tuple xs, .tuple ys => lessItems xs ys
  | .set xs, .set ys => .ok (xs.length < ys.length && isSubset xs ys)
  | v, w => lessAtoms v w
termination_by sizeOf a + sizeOf b

/-- Order of sequences: by the first items that are not equal, else by length. -/
def lessItems (xs ys : List Value) : Except CompareError Bool :=
  match xs, ys with
  | x :: xs, y :: ys => do
    if (← equal x y) then lessItems xs ys else less x y
  | [], _ :: _ => .ok true
  | _, [] => .ok false
termination_by sizeOf xs + sizeOf ys

end

mutual

/-- Whether a value can be a key: what can be changed cannot, nor can what holds such a value. -/
def isKey : Value → Bool
  | .byteArray _ => false
  | .list _ => false
  | .dictionary _ => false
  | .set _ => false
  | .parameter .. => false
  | .decimal (.nan _ signaling _) => !signaling
  | .tuple items => areKeys items
  | _ => true

/-- Whether all items can be keys. -/
def areKeys : List Value → Bool
  | [] => true
  | item :: rest => isKey item && areKeys rest

end

/-- The entries with one more, which replaces the value of an equal key or comes last. -/
def insertEntry (key value : Value) : List (Value × Value) → List (Value × Value)
  | [] => [(key, value)]
  | (key', value') :: rest =>
    match equal key' key with
    | .ok true => (key', value) :: rest
    | _ => (key', value') :: insertEntry key value rest

/-- The dictionary of entries given in order, unless something is no key: a repeated key keeps
its first place and takes its last value. -/
def dictionary? (entries : List (Value × Value)) : Option Value :=
  if areKeys (entries.map Prod.fst) then
    some (.dictionary (entries.foldl (fun d entry => insertEntry entry.1 entry.2 d) []))
  else none

/-- Whether one of the items equals a text. -/
def holdsText (items : List Value) (text : String) : Bool :=
  items.any fun item => item.equal (.text text) matches .ok true

end Value

/-- The six comparisons. -/
inductive Comparison
  | eq
  | ne
  | lt
  | le
  | gt
  | ge
deriving DecidableEq

namespace Comparison

/-- The outcome of a comparison of a parameter with a value, from equality and strict order
alone: *at most* is less or equal, *greater* neither, *at least* not less. -/
def ofParameter (op : Comparison) (parameter other : Value) : Except CompareError Bool :=
  match op with
  | .eq => parameter.equal other
  | .ne => do return !(← parameter.equal other)
  | .lt => parameter.less other
  | .le => do if (← parameter.less other) then .ok true else parameter.equal other
  | .gt => do if (← parameter.less other) then .ok false else return !(← parameter.equal other)
  | .ge => do return !(← parameter.less other)

end Comparison

end TdsClient
