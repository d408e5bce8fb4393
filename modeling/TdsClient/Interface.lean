import TdsClient.Error
import TdsClient.Statement.Marker

/-!
# The programming interface

What the library says about the interface it offers: the level of the
common database interface, what threads may share, the style of markers
that connections use unless told otherwise, and its own version. The
common interface also asks for constructors of dates, times and byte
strings.

## Main definitions

* `Constructor.apply` — the value that a constructor makes of arguments.
-/

namespace TdsClient.Interface

/-- The level of the common database interface. -/
def level : String := "2.0"

/-- Threads may share the library, but not connections. -/
def threadSafety : Nat := 1

/-- The style of markers of new connections. -/
def defaultStyle : ParamStyle := .numeric

/-- The version of the library. -/
def libraryVersion : String := "1.0.0"

/-- Constructors of values. Those that read a clock take seconds. -/
inductive Constructor
  | date
  | time
  | timestamp
  | dateOfClock
  | timeOfClock
  | timestampOfClock
  | binary
deriving DecidableEq

namespace Constructor

/-- Whether a constructor reads a clock. -/
def readsClock : Constructor → Bool
  | .dateOfClock => true
  | .timeOfClock => true
  | .timestampOfClock => true
  | _ => false

/-- How many arguments a constructor takes. Microseconds may be left out. -/
def arities : Constructor → List Nat
  | .date => [3]
  | .time => [3, 4]
  | .timestamp => [6, 7]
  | _ => [1]

/-- The integer that an argument is. The fields of dates and times have 32 bits. -/
def integer (c : Constructor) : Value → Except Error Int
  | .int n =>
    if c.readsClock || IntegerWidth.regular.holds n then .ok n else .error (.misuse .fieldTooLarge)
  | .bool b => .ok b.toNat
  | _ => .error (.misuse .unsuitable)

/-- A date or time that exists. -/
def existing {α : Type} (make : α → Value) (made : Option α) : Except Error Value :=
  match made with
  | some a => .ok (make a)
  | none => .error (.misuse .noSuchDate)

/-- A date or time that a clock shows. -/
def shown {α : Type} (make : α → Value) (read : Except ClockError α) : Except Error Value :=
  match read with
  | .ok a => .ok (make a)
  | .error cause => .error (.misuse (.clock cause))

/-- The value made of integers. A time that says nothing of microseconds has none. -/
def ofIntegers (c : Constructor) (arguments : List Int) : Except Error Value :=
  match c, arguments with
  | .date, [y, mo, d] => existing .date (Date.of? y mo d)
  | .time, [h, mi, s] => existing .time (Time.of? h mi s 0)
  | .time, [h, mi, s, us] => existing .time (Time.of? h mi s us)
  | .timestamp, [y, mo, d, h, mi, s] => existing .dateTime (DateTime.of? y mo d h mi s 0)
  | .timestamp, [y, mo, d, h, mi, s, us] => existing .dateTime (DateTime.of? y mo d h mi s us)
  | .dateOfClock, [n] => shown .date (Date.ofClock n)
  | .timeOfClock, [n] => shown .time (Time.ofClock n)
  | .timestampOfClock, [n] => shown .dateTime (DateTime.ofClock n)
  | _, _ => .error (.misuse .unsuitable)

/-- The value that a constructor makes of arguments. -/
def apply (c : Constructor) (arguments : List Value) : Except Error Value :=
  match c, arguments with
  | .binary, [value] =>
    match value.toBytes with
    | .ok b => .ok (.bytes b)
    | .error cause => .error (.misuse (.bytes cause))
  | c, arguments => do
    if arguments.length ∈ c.arities then c.ofIntegers (← arguments.mapM c.integer)
    else .error (.misuse .unsuitable)

end Constructor

end TdsClient.Interface
