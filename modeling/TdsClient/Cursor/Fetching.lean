import TdsClient.Cursor.Reading
import TdsClient.RowList

/-!
# Fetching rows

The rows of a result set come one at a time, in batches or all at once,
each with the column names of the set. A cursor can also leave a result
set for the next one.

## Main definitions

* `Cursor.fetchOne`, `Cursor.fetchMany`, `Cursor.fetchAll`, `Cursor.iterate`.
* `Cursor.nextSet` — the next result set.
-/

namespace TdsClient.Cursor

open Connection

variable {σ : Type} [Session σ]

/-- The column names of the result set. -/
def columnNames (k : Cursor) : Op σ (List String) := do
  match (← k.record).columnNames with
  | some names => return names
  | none => throw .brokenResult

/-- Fetches the next row, if there is one. -/
def fetchOne (k : Cursor) : Op σ (Option Row) := do
  k.checkResults
  match ← k.readRow with
  | none => return none
  | some values => return some ⟨← k.columnNames, values⟩

/-- Fetches rows as long as more are wanted. -/
def fetchWhile (k : Cursor) (wanted : Nat → Except CompareError Bool) : Op σ RowList := do
  let values ← k.readRows wanted
  return .ofValues (← k.columnNames) values

/-- The size that is meant; null stands for the one that is set. -/
def fetchSize (r : CursorRecord) : Value → Value
  | .null => .int r.arraySize
  | size => size

/-- Fetches as many rows as a size says. A size that cannot be compared with a number is
refused. -/
def fetchMany (k : Cursor) (size : Value) : Op σ RowList := do
  k.checkResults
  let size := fetchSize (← k.record) size
  k.fetchWhile fun n => (Value.int n).less size

/-- Fetches the rest of the result set. -/
def fetchAll (k : Cursor) : Op σ RowList := do
  k.checkResults
  k.fetchWhile fun _ => .ok true

/-- Goes through the rows, but not further than a limit. -/
def iterate (k : Cursor) (limit : Option Nat) : Op σ (List Row) := do
  k.checkResults
  let values ← k.readRows fun n => .ok (match limit with
    | some limit => n < limit
    | none => true)
  let names ← k.columnNames
  return values.map fun row => ⟨names, row⟩

/-- Whether a response is being read. -/
def isReading (state : CursorState) : Bool := state = .executing ∨ state = .hasResults

/-- Leaves the result set for the next one, and says whether there is one. The number of the
next row is not known until one is read. -/
def nextSet (k : Cursor) : Op σ Bool := do
  k.check
  if isReading (← k.record).state then
    k.protect do
      k.discardRows
      let found ← k.advance
      if found then k.change fun r => { r with rowNumber := none }
      return found
  else return false

end TdsClient.Cursor
