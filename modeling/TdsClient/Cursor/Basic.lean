import TdsClient.Connection.Statement

/-!
# Cursors

A cursor is a place among the cursors of its connection. Its operations
are operations on the connection, since they use the session that all
cursors share.

Most operations need a cursor that was not closed and a connection that
can be used, and are refused otherwise, a closed cursor first. What a
cursor keeps for itself can be read and set in any state.

## Main definitions

* `Cursor` — the handle.
* `Cursor.check` — whether it can be used.
* `Cursor.protect` — losing the result set if something fails.
* `Cursor.close` — the end of its use.
-/

namespace TdsClient

/-- A cursor of a connection. -/
structure Cursor where
  index : Nat
deriving DecidableEq

namespace Connection

variable {σ : Type}

/-- Opens a cursor. -/
def openCursor : Op σ Cursor := do
  checkUsable
  modifyGet fun c => (⟨c.cursors.length⟩, { c with cursors := c.cursors ++ [{}] })

end Connection

namespace Cursor

open Connection

variable {σ α : Type}

/-- What a connection knows of a cursor. -/
def recordIn (k : Cursor) (c : Connection σ) : CursorRecord := (c.cursors[k.index]?).getD {}

/-- What the cursor knows. -/
def record (k : Cursor) : Op σ CursorRecord := fun c => .ok (k.recordIn c) c

/-- Changes what the cursor knows. -/
def change (k : Cursor) (f : CursorRecord → CursorRecord) : Op σ Unit :=
  modify fun c => c.modifyCursor k.index f

/-- Fails if the cursor or its connection cannot be used. -/
def check (k : Cursor) : Op σ Unit := do
  if (← k.record).state = .closed then throw (.interface .cursorClosed)
  checkUsable

/-- Fails also if there is no result set. -/
def checkResults (k : Cursor) : Op σ Unit := do
  k.check
  if (← k.record).description.isNone then throw (.interface .noResults)

/-- An operation after whose failure there is no result set. -/
def protect (k : Cursor) (op : Op σ α) : Op σ α :=
  tryCatch op fun e => do
    k.change (·.reset .unused)
    throw e

/-- Closes the cursor; closing it again does nothing. -/
def close (k : Cursor) : Op σ Unit := do
  unless (← k.record).state = .closed do
    k.change (·.reset .closed)
    modify fun c => c.release k.index

/-- What the cursor knows, if it can be used. -/
def checkedRecord (k : Cursor) : Op σ CursorRecord := do
  k.check
  k.record

/-- Messages of its last statement. -/
def messages (k : Cursor) : Op σ (List Message) := do
  let r ← k.checkedRecord
  return (← get).messagesOf k.index r

/-- Sets how many rows are fetched at a time. -/
def setArraySize (k : Cursor) (value : Value) : Op σ Unit :=
  match value with
  | .int n => k.change fun r => { r with arraySize := n }
  | _ => throw (.misuse (.settingKind .arraySize))

end Cursor

end TdsClient
