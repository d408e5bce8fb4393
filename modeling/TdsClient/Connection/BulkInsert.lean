import TdsClient.Connection.Statement
import TdsClient.Text.Bracketed

/-!
# Inserting many rows

Rows are copied into a table in batches. The columns of the table are
asked for first; each row then gives one value for each of them, by
position or by name. A column that a row does not name is null if that is
allowed or if the server fills it. A batch is sent as soon as it is full,
so a bad row keeps all full batches before it.

## Main definitions

* `Connection.bulkInsert` — the operation.
* `BulkCopy` — what is the same for all batches.
* `bulkRow` — the values of a row.
-/

namespace TdsClient.Connection

variable {σ : Type}

/-! ## Rows -/

/-- The value for a column from entries, null if it may be missing. -/
def namedCell (entries : List (Value × Value)) (c : Column) : Except Error Value :=
  match entries.find? fun entry => entry.1.isText c.name with
  | some (_, value) => .ok value
  | none => if c.nullable || c.identity then .ok .null else .error (.misuse (.missingColumn c.name))

/-- One value of a row for each column. -/
def rowCells (columns : List Column) (number : Nat) (row : Value) : Except Error (List Value) :=
  match row.entries?, row.sequence? with
  | some entries, _ => columns.mapM (namedCell entries)
  | none, some cells =>
    if cells.length = columns.length then .ok cells
    else .error (.interface (.columnCount number))
  | none, none => .error (.misuse (.invalidRow number))

/-- A value as it is sent for a column: plain, and text for a code page as that can hold it. -/
def sentCell (i : Inference) (encode : Bool) (c : Column) (value : Value) : Reported Value :=
  match value.unwrap with
  | .text s =>
    if encode && c.typeCode ∈ TypeCode.singleByteStrings then do
      let (s, _) ← i.encodeText s
      return .text s
    else pure (.text s)
  | value => pure value

/-- The values of a row as they are sent. -/
def bulkRow (i : Inference) (columns : List Column) (encode : Bool) (number : Nat) (row : Value) :
    Reported (List Value) := do
  let cells ← Reported.ofExcept (rowCells columns number row)
  (columns.zip cells).mapM fun (column, value) => sentCell i encode column value

/-! ## Batches -/

/-- What is the same for all batches. -/
structure BulkCopy where
  statement : String
  columns : List Column
  declarations : List String
  encode : Bool
  batchSize : Option Nat

/-- A column and its type, as a statement lists them. -/
def columnDefinition (c : Column) (declaration : String) : String :=
  Text.Bracketed.quote c.name ++ " " ++ declaration

/-- The statement in front of each batch. -/
def insertStatement (table : String) (columns : List Column) (declarations : List String)
    (tableLock : Bool) : String :=
  "INSERT BULK " ++ table ++ "(" ++
    ", ".intercalate (List.zipWith columnDefinition columns declarations) ++ ")" ++
    (if tableLock then " WITH (TABLOCK)" else "")

/-- The statement that gives the columns of a table and no rows. -/
def columnsStatement (table : String) : String := "SELECT TOP 0 * FROM " ++ table

/-- Number of rows in a batch; null stands for no limit. -/
def batchLimit (value : Value) : Except Error (Option Nat) :=
  match value with
  | .null => .ok none
  | .int n => if n < 1 then .error (.misuse (.valueOutOfRange value)) else .ok (some n.toNat)
  | _ => .error (.misuse (.settingKind .batchSize))

/-- Whether a batch is full. -/
def BulkCopy.isFull (b : BulkCopy) (batch : List (List Value)) : Bool :=
  match b.batchSize with
  | some size => size ≤ batch.length
  | none => false

variable [Session σ]

/-- The columns of a table. -/
def tableColumns (table : String) : Op σ (List Column) := do
  beginStatement none
  submitFor none { sql := columnsStatement table }
  let columns ← call Session.nextResult
  drain
  let version := Session.version (← get).session
  Op.ofExcept ((columns.getD []).mapM (Column.normalize version))

/-- Sends a batch and gives the number of rows that were saved. -/
def sendBatch (b : BulkCopy) (batch : List (List Value)) : Op σ Int := do
  execute b.statement
  call (Session.bulkCopy b.columns b.declarations batch)

/-- Sends rows from a number on, after a batch that is not full yet. Gives the number of rows
that were saved. -/
def sendRows (b : BulkCopy) :
    (number : Nat) → (batch : List (List Value)) → (saved : Int) → List Value → Op σ Int
  | _, batch, saved, [] => do
    if batch.isEmpty then return saved
    else return saved + (← sendBatch b batch)
  | number, batch, saved, row :: rest => do
    let i := (← get).inference
    let batch := batch ++ [← announce (bulkRow i b.columns b.encode number row)]
    if b.isFull batch then
      let count ← sendBatch b batch
      sendRows b (number + 1) [] (saved + count) rest
    else sendRows b (number + 1) batch saved rest

/-- Inserts rows into a table and gives the number of rows that were saved. -/
def bulkInsert (table : String) (rows batchSize : Value) (tableLock encode : Bool) :
    Op σ Int := do
  checkUsable
  unless (← get).bulkCopyEnabled do throw .bulkCopyDisabled
  let batchSize ← Op.ofExcept (batchLimit batchSize)
  match rows.items? with
  | none => throw (.misuse (.wrongKind rows))
  | some items =>
    let columns ← tableColumns table
    let declarations ← Op.ofExcept (columns.mapM Column.declaration)
    let statement := insertStatement table columns declarations tableLock
    sendRows ⟨statement, columns, declarations, encode, batchSize⟩ 0 [] 0 items

end TdsClient.Connection
