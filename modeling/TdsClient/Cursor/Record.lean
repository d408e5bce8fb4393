import TdsClient.Column

/-!
# What a cursor knows

A cursor is where a program executes statements and reads their results.
It starts unused. While a result set is being read it knows the columns in
three forms: as they are described to the program, by their names, and by
the conversions of their values.

## Main definitions

* `CursorState` — how far a cursor is.
* `CursorRecord` — what it knows.
* `CursorRecord.reset` — forgetting a result set.
-/

namespace TdsClient

/-- How far a cursor is: nothing was executed, or its results are lost; a request was submitted
and its first result not reached; a result set can be read; the response was read to its end;
or the cursor was closed. -/
inductive CursorState
  | unused
  | executing
  | hasResults
  | exhausted
  | closed
deriving DecidableEq

/-- The name of a state. -/
def CursorState.name : CursorState → String
  | .unused => "UNUSED"
  | .executing => "EXECUTING"
  | .hasResults => "HAS_RESULTS"
  | .exhausted => "EXHAUSTED"
  | .closed => "CLOSED"

/-- What a cursor knows. The messages are those of its last statement, once another statement
has begun; until then the connection has them. -/
structure CursorRecord where
  state : CursorState := .unused
  arraySize : Int := 1
  description : Option (List ColumnDescription) := none
  columnNames : Option (List String) := none
  conversions : Option (List (Option Column.Conversion)) := none
  rowNumber : Option Nat := none
  rowCount : Int := -1
  rowCountReliable : Bool := true
  returnValue : Option Int := none
  messages : List Message := []

namespace CursorRecord

/-- Forgets the result set. -/
def reset (r : CursorRecord) (state : CursorState) : CursorRecord :=
  { r with
    state
    description := none
    columnNames := none
    conversions := none
    rowNumber := none }

/-- Loses its results because another statement begins. A closed cursor has none. -/
def detach (r : CursorRecord) : CursorRecord :=
  if r.state = .closed then r else r.reset .unused

/-- Starts a statement. -/
def begin (r : CursorRecord) : CursorRecord :=
  { r.reset .unused with rowCount := -1, returnValue := none }

/-- Reaches a result set with columns. -/
def reach (r : CursorRecord) (columns : List Column) : CursorRecord :=
  { r with
    state := .hasResults
    description := some (columns.map Column.describe)
    columnNames := some (columns.map (·.name))
    conversions := some (Column.conversions columns)
    rowNumber := some 0 }

/-- Reaches the end of the response. -/
def finish (r : CursorRecord) (rowCount : Int) (returnValue : Option Int) : CursorRecord :=
  { r.reset .exhausted with rowCount, returnValue }

/-- Counts a row that was read. -/
def countRow (r : CursorRecord) : CursorRecord :=
  { r with rowNumber := some (r.rowNumber.getD 0 + 1) }

/-- The number of the next row, if a result set is being read. -/
def nextRow? (r : CursorRecord) : Option Nat :=
  match r.description with
  | none => none
  | some _ => r.rowNumber

end CursorRecord

end TdsClient
