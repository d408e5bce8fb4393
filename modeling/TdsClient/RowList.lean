import TdsClient.Number.Decimal.Sum
import TdsClient.Row

/-!
# Lists of rows

The rows that a fetch returns. The row objects of a list are made when
they are first asked for and kept, so that asking twice for a place gives
one and the same object. Which object it is matters to a program that
compares rows, so it is modelled: every object has an identity, handed out
in the order in which objects are made, and the list remembers for each
place the identity of its row once there is one.

Every access may make objects and therefore returns the list as it is
afterwards.

## Main definitions

* `RowList.get`, `RowList.slice`, `RowList.toList` — access to one, some or all rows.
* `RowList.find`, `RowList.contains`, `RowList.count` — search by identity.

## Main results

* `rowAt_again` — a second access to a place gives the same object and
  makes none.
-/

namespace TdsClient

/-- A row with the identity of its object. -/
structure RowObject where
  identity : Nat
  row : Row

/-- A list of rows: the values of each, which of them have an object, and how many objects
have been made. -/
structure RowList where
  names : List String
  values : List (List Value)
  identities : List (Option Nat)
  made : Nat

namespace RowList

/-- The list of the rows with the given values, none of them made yet. -/
def ofValues (names : List String) (values : List (List Value)) : RowList where
  names := names
  values := values
  identities := values.map fun _ => none
  made := 0

/-- Number of rows. -/
def size (l : RowList) : Nat := l.values.length

/-- The row at a place. -/
def rowOf (l : RowList) (place : Nat) : Row := ⟨l.names, l.values.getD place []⟩

/-- The object at a place, made if there is none. -/
def rowAt (l : RowList) (place : Nat) : RowObject × RowList :=
  match l.identities[place]? with
  | some (some identity) => (⟨identity, l.rowOf place⟩, l)
  | _ =>
    (⟨l.made, l.rowOf place⟩,
      { l with identities := l.identities.set place (some l.made), made := l.made + 1 })

/-- A place that has an object gives it. -/
theorem rowAt_of_made (l : RowList) (place identity : Nat)
    (h : l.identities[place]? = some (some identity)) :
    l.rowAt place = (⟨identity, l.rowOf place⟩, l) := by
  simp only [rowAt, h]

/-- A second access to a place gives the same object and makes none. -/
theorem rowAt_again (l : RowList) (place : Nat) (h : place < l.identities.length) :
    (l.rowAt place).2.rowAt place = l.rowAt place := by
  rcases known : l.identities[place]? with _ | _ | identity
  · exact absurd (List.getElem?_eq_none_iff.1 known) (by omega)
  · simp only [rowAt, known]
    rw [List.getElem?_set_self h]
    rfl
  · rw [rowAt_of_made l place identity known, rowAt_of_made l place identity known]

/-- The place of an integer index. -/
def place (l : RowList) (index : Int) : Except RowError Nat :=
  match resolveIndex? l.size index with
  | some place => .ok place
  | none => .error .outOfRange

/-- The object at an index, counted from either end. -/
def get (l : RowList) (index : Int) : Except RowError RowObject × RowList :=
  match l.place index with
  | .ok place =>
    let (object, l) := l.rowAt place
    (.ok object, l)
  | .error e => (.error e, l)

/-- A value moved up by the length of the list, rounded as sums of its kind are. -/
def moved (l : RowList) : Value → Except RowError Value
  | .int n => .ok (.int (n + l.size))
  | .float x =>
    match x.toRat? with
    | some r => .ok (.float (.ofRat (r + l.size)))
    | none => .ok (.float x)
  | .decimal d =>
    if d.isFinite then
      match d.sum? (.ofInt l.size) with
      | some total => .ok (.decimal total)
      | none => .error .sumTooLarge
    else .ok (.decimal d)
  | _ => .error .badKey

/-- A comparison on behalf of an access. -/
def ordered (result : Except CompareError Bool) : Except RowError Bool :=
  result.mapError .comparison

/-- Whether zero is at most a value. A parameter is asked whether it is not less. -/
def isFromStart (value : Value) : Except CompareError Bool :=
  match value with
  | .parameter .. => do return !(← value.less (.int 0))
  | value => do if (← Value.less (.int 0) value) then .ok true else value.equal (.int 0)

/-- The index that a value stands for. Any value that can be compared with a number is looked at
as an index first: it is refused for being out of range before it is refused for its kind. -/
def indexOf (l : RowList) : Value → Except RowError Int
  | .int n => .ok n
  | .bool b => .ok b.toNat
  | value => do
    let fromEnd ← ordered (value.less (.int 0))
    let place ← if fromEnd then l.moved value else .ok value
    let started ← ordered (isFromStart place)
    let inside ← if started then ordered (place.less (.int l.size)) else .ok false
    .error (if inside then .badKey else .outOfRange)

/-- The objects at places, in order. -/
def rowsAt (l : RowList) : List Nat → List RowObject × RowList
  | [] => ([], l)
  | place :: rest =>
    let (object, l) := l.rowAt place
    let (objects, l) := l.rowsAt rest
    (object :: objects, l)

/-- A bound of a slice, moved into the range of places that the direction allows. -/
def clamp (length low high : Int) (bound : Option Int) (absent : Int) : Int :=
  match bound with
  | none => absent
  | some n =>
    if n < 0 then max (n + length) low
    else min n high

/-- The places from `start` in steps of `step`, `count` of them. -/
def stride (start step : Int) : Nat → List Nat
  | 0 => []
  | count + 1 => start.toNat :: stride (start + step) step count

/-- The places that a slice of a sequence selects; a step of zero selects none. -/
def slicePlaces (length : Nat) (start stop : Option Int) (step : Int) : List Nat :=
  if 0 < step then
    let first := clamp length 0 length start 0
    let last := clamp length 0 length stop length
    stride first step ((last - first + step - 1) / step).toNat
  else if step < 0 then
    let first := clamp length (-1) (length - 1) start (length - 1)
    let last := clamp length (-1) (length - 1) stop (-1)
    stride first step ((first - last - step - 1) / -step).toNat
  else []

/-- The objects of a slice. -/
def slice (l : RowList) (start stop step : Option Int) :
    Except RowError (List RowObject) × RowList :=
  if step = some 0 then (.error .zeroStep, l)
  else
    let (objects, l) := l.rowsAt (slicePlaces l.size start stop (step.getD 1))
    (.ok objects, l)

/-- The bound of a slice that a value stands for; null stands for none. -/
def sliceBound : Value → Except RowError (Option Int)
  | .null => .ok none
  | .int n => .ok (some n)
  | .bool b => .ok (some b.toNat)
  | _ => .error .badKey

/-- The bounds of a slice, of which the step is looked at first. -/
def sliceBounds (start stop step : Value) :
    Except RowError (Option Int × Option Int × Option Int) := do
  let step ← sliceBound step
  if step = some 0 then throw .zeroStep
  return (← sliceBound start, ← sliceBound stop, step)

/-- The objects of a slice whose bounds are values. -/
def sliceOf (l : RowList) (start stop step : Value) :
    Except RowError (List RowObject) × RowList :=
  match sliceBounds start stop step with
  | .ok (start, stop, step) => l.slice start stop step
  | .error e => (.error e, l)

/-- All objects in order. -/
def toList (l : RowList) : List RowObject × RowList := l.rowsAt (List.range l.size)

/-- All objects from the last to the first. -/
def reversed (l : RowList) : List RowObject × RowList := l.rowsAt (List.range l.size).reverse

@[simp]
theorem size_rowAt (l : RowList) (place : Nat) : (l.rowAt place).2.size = l.size := by
  unfold rowAt
  split <;> rfl

/-- Looks for an identity from a place on, in front of the index at which to stop, if there is one,
and as long as there are rows. -/
def search (l : RowList) (identity : Nat) (stop : Option Int) (place : Nat) :
    Option Nat × RowList :=
  if stop.all ((place : Int) < ·) ∧ place < l.size then
    if (l.rowAt place).1.identity = identity then (some place, (l.rowAt place).2)
    else (l.rowAt place).2.search identity stop (place + 1)
  else (none, l)
termination_by l.size - place
decreasing_by
  rw [size_rowAt]
  omega

/-- A bound of a search; a negative one counts from the end. -/
def searchBound (l : RowList) (bound : Int) : Int := if bound < 0 then bound + l.size else bound

/-- The place of an object, looked for between two bounds. -/
def find (l : RowList) (object : RowObject) (start : Int := 0) (stop : Option Int := none) :
    Option Nat × RowList :=
  l.search object.identity (stop.map l.searchBound) (l.searchBound start).toNat

/-- Whether an object is in the list. -/
def contains (l : RowList) (object : RowObject) : Bool × RowList :=
  let (place, l) := l.find object
  (place.isSome, l)

/-- How often an object is in the list. -/
def count (l : RowList) (object : RowObject) : Nat × RowList :=
  let (objects, l) := l.toList
  (objects.countP (·.identity = object.identity), l)

/-- The expression that shows a list. -/
def literal (l : RowList) : String :=
  applied "RowList"
    ["[" ++ ", ".intercalate ((List.range l.size).map fun i => (l.rowOf i).literal) ++ "]"]

end RowList

end TdsClient
