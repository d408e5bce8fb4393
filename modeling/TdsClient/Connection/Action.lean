import TdsClient.Connection.BulkInsert
import TdsClient.Connection.Transaction
import TdsClient.Cursor.Execution
import TdsClient.Cursor.Fetching

/-!
# Everything that can be done with a connection

A program uses a connection and its cursors in any order. Each of its steps
is an action, so a program's whole use of a connection is a list of
actions, and what holds after every list of actions holds always.

## Main definitions

* `Action`, `CursorAction` — the steps.
* `Answer` — what a step gives.
* `Action.perform` — the operation of a step.
* `runAll` — the connection after steps, whether they succeed or fail.
-/

namespace TdsClient

/-- What can be read from a connection. -/
inductive ConnectionProperty
  | literal
  | messages
  | style
  | autocommit
  | timeout
  | database
  | version
  | sessionId
  | escalates
deriving DecidableEq

/-- What can be read from a cursor. -/
inductive CursorProperty
  | description
  | rowCount
  | rowCountReliable
  | rowNumber
  | arraySize
  | returnValue
  | sessionId
  | messages
deriving DecidableEq

/-- A step on a cursor. -/
inductive CursorAction
  | execute (sql : String) (parameters : Value)
  | executeMany (sql : String) (items : Value)
  | callProcedure (procedure : String) (arguments : Value)
  | fetchOne
  | fetchMany (size : Value)
  | fetchAll
  | nextSet
  | iterate (limit : Option Nat)
  /-- Announces the sizes of parameters or columns, which has no effect. -/
  | setSizes
  | setArraySize (value : Value)
  | close
  | read (property : CursorProperty)

/-- A step on a connection or one of its cursors. -/
inductive Action
  | openCursor
  | commit
  | rollback
  | setAutocommit (value : Value)
  | setTimeout (value : Value)
  | useDatabase (value : Value)
  | setEscalation (value : Value)
  | bulkInsert (table : String) (rows batchSize : Value) (tableLock encode : Bool)
  | close
  /-- Leaves the block in which the connection is used. -/
  | leave (failed : Bool)
  | read (property : ConnectionProperty)
  | onCursor (cursor : Cursor) (action : CursorAction)

/-- What a step gives. -/
inductive Answer
  | value (v : Value)
  | row (r : Row)
  | rows (rs : List Row)
  | rowList (l : RowList)
  | description (d : List ColumnDescription)
  | messages (ms : List Message)
  | cursor (k : Cursor)

namespace Answer

/-- Nothing to tell. -/
def nothing : Answer := .value .null

/-- A number, if there is one. -/
def number? (n : Option Int) : Answer := .value ((n.map .int).getD .null)

/-- A text, if there is one. -/
def text? (s : Option String) : Answer := .value ((s.map .text).getD .null)

end Answer

open Connection

variable {σ : Type} [Session σ]

namespace ConnectionProperty

/-- Whether a property can only be read while the connection is open. -/
def needsOpen : ConnectionProperty → Bool
  | .autocommit => true
  | .timeout => true
  | .database => true
  | .version => true
  | .sessionId => true
  | _ => false

/-- The value of a property. -/
def valueIn (c : Connection σ) : ConnectionProperty → Answer
  | .literal => .value (.text c.literal)
  | .messages => .messages c.messages
  | .style => .value c.style.given
  | .autocommit => .value c.autocommitMode
  | .timeout => .value c.timeout
  | .database => .text? (Session.database c.session)
  | .version => .text? (Session.version c.session).name?
  | .sessionId => .value (.int (Session.spid c.session))
  | .escalates => .value c.escalation

/-- Reads a property. -/
def read (p : ConnectionProperty) : Op σ Answer := do
  if p.needsOpen then checkOpen
  return p.valueIn (← get)

end ConnectionProperty

namespace CursorProperty

/-- The value of a property. -/
def valueIn (c : Connection σ) (k : Cursor) (p : CursorProperty) : Answer :=
  let r := k.recordIn c
  match p with
  | .description => (r.description.map .description).getD .nothing
  | .rowCount => .value (.int r.rowCount)
  | .rowCountReliable => .value (.bool r.rowCountReliable)
  | .rowNumber => .number? (r.nextRow?.map Int.ofNat)
  | .arraySize => .value (.int r.arraySize)
  | .returnValue => .number? r.returnValue
  | .sessionId => .value (.int (Session.spid c.session))
  | .messages => .messages (c.messagesOf k.index r)

/-- Reads a property. Only the array size can be read in any state. -/
def read (k : Cursor) (p : CursorProperty) : Op σ Answer := do
  unless p = .arraySize do k.check
  return p.valueIn (← get) k

end CursorProperty

/-- An operation whose result tells nothing. -/
def silently (op : Op σ Unit) : Op σ Answer := do
  op
  return .nothing

/-- The operation of a step on a cursor. -/
def CursorAction.perform (k : Cursor) : CursorAction → Op σ Answer
  | .execute sql parameters => silently (k.execute sql parameters)
  | .executeMany sql items => silently (k.executeMany sql items)
  | .callProcedure procedure arguments => do
    return .value (← k.callProcedure procedure arguments)
  | .fetchOne => do
    match ← k.fetchOne with
    | some row => return .row row
    | none => return .nothing
  | .fetchMany size => do return .rowList (← k.fetchMany size)
  | .fetchAll => do return .rowList (← k.fetchAll)
  | .nextSet => do
    if ← k.nextSet then return .value (.bool true) else return .nothing
  | .iterate limit => do return .rows (← k.iterate limit)
  | .setSizes => silently k.check
  | .setArraySize value => silently (k.setArraySize value)
  | .close => silently k.close
  | .read property => property.read k

/-- The operation of a step. -/
def Action.perform : Action → Op σ Answer
  | .openCursor => do return .cursor (← Connection.openCursor)
  | .commit => silently Connection.commit
  | .rollback => silently Connection.rollback
  | .setAutocommit value => silently (Connection.setAutocommit value)
  | .setTimeout value => silently (Connection.setTimeout value)
  | .useDatabase value => silently (Connection.useDatabase value)
  | .setEscalation value => silently (modify fun c => { c with escalation := value })
  | .bulkInsert table rows batchSize tableLock encode => do
    return .value (.int (← Connection.bulkInsert table rows batchSize tableLock encode))
  | .close => silently Connection.close
  | .leave failed => silently (Connection.leave failed)
  | .read property => property.read
  | .onCursor cursor action => action.perform cursor

namespace Connection

/-- The connection after steps, each of which may fail. -/
def runAll (c : Connection σ) (actions : List Action) : Connection σ :=
  actions.foldl (fun c action => action.perform.after c) c

end Connection

end TdsClient
