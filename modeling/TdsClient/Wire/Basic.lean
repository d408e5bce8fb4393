import TdsClient.Session.Basic

/-!
# The wire

Below a session lies the protocol. It sends requests in the protocol's own
form, goes through the results of a response as they come in, and collects
messages in a list, which a request empties and from which the protocol
may take the last ones back.

The protocol has failures of its own, and `WireFailure.toSession` says what
each of them means for a session.

## Main definitions

* `Wire` — the operations of the protocol.
* `WireFailure` — why one of them fails.
* `WireMessage`, `WireColumn`, `WireResult`, `BulkColumn`, `Procedure` — what it takes and gives.
-/

namespace TdsClient

/-- Why an operation of the protocol fails. -/
inductive WireFailure
  /-- A value cannot be converted. -/
  | badData (text : String)
  /-- The server reports an error. -/
  | refused (text : String)
  | timedOut
  /-- The connection is broken. A failure that says nothing has at least a name. -/
  | broken (text name : String)
  | unexpected (kind : ErrorKind)
deriving DecidableEq

/-- What is said of a request that took too long. -/
def WireFailure.timeoutText : String := "request timed out"

/-- What a failure means for a session. -/
def WireFailure.toSession : WireFailure → SessionFailure
  | .badData text => .badData text
  | .refused text => .rejected text .database
  | .timedOut => .lost timeoutText true
  | .broken text name => .lost (if text = "" then name else text) false
  | .unexpected kind => .unexpected kind

/-- A column as the protocol describes it: what does not apply to its type is left out, and
flags say the rest. -/
structure WireColumn where
  name : String
  typeCode : TypeCode
  size : Option Int := none
  precision : Option Int := none
  scale : Option Int := none
  flags : Nat := 1
deriving DecidableEq

namespace WireColumn

/-- The flag of columns that can be null. -/
def nullableFlag : Nat := 0x01

/-- The flag of columns that the server numbers. -/
def identityFlag : Nat := 0x10

/-- Whether a flag is set. -/
def hasFlag (flags flag : Nat) : Bool := flags &&& flag ≠ 0

/-- The flags of a column. -/
def flagsOf (nullable identity : Bool) : Nat :=
  (if nullable then nullableFlag else 0) + (if identity then identityFlag else 0)

/-- The column as a session reports it. -/
def toColumn (c : WireColumn) : Column where
  name := c.name
  typeCode := c.typeCode
  size := c.size.getD 0
  precision := c.precision.getD 0
  scale := c.scale.getD 0
  nullable := hasFlag c.flags nullableFlag
  identity := hasFlag c.flags identityFlag

end WireColumn

/-- A message as the protocol keeps it, under names of its own. -/
structure WireMessage where
  messageNumber : Int
  state : Int := 1
  severity : Int := 0
  text : String
  server : String := ""
  procedureName : String := ""
  lineNumber : Int := 0
deriving DecidableEq

/-- The message as a session passes it on. -/
def WireMessage.toMessage (m : WireMessage) : Message where
  number := m.messageNumber
  state := m.state
  severity := m.severity
  description := m.text
  server := m.server
  procedure := m.procedureName
  line := m.lineNumber

/-- A column into which rows are copied. -/
structure BulkColumn where
  name : String
  type : SqlType
  flags : Nat

/-- A procedure to call. The protocol has a short form for the one that executes statements. -/
inductive Procedure
  | executeSql
  | named (name : String)
deriving DecidableEq

/-- The procedure of a name. -/
def Procedure.ofName (name : String) : Procedure :=
  if name = Request.executeSql then .executeSql else .named name

/-- A result set. Since two of them may have the same columns a number tells them apart. -/
structure WireResult where
  serial : Nat
  columns : List WireColumn
deriving DecidableEq

/-- The result set that has come in, if it is not the one from before. -/
def WireResult.arrived? (previous current : Option WireResult) : Option WireResult :=
  current.filter fun set => previous.map (·.serial) ≠ some set.serial

/-- What was there before has not come in. -/
@[simp]
theorem WireResult.arrived?_self (set : Option WireResult) : arrived? set set = none := by
  cases set with
  | none => rfl
  | some set => simp [arrived?]

/-- The protocol. The first result of a response is asked for in one way if the request was a
call and in another one if it was a batch; later ones only while the protocol is not idle. What
is found is a result set, which the protocol then holds, or a row count; a flag says whether there
is more to come, in a way of its own for later results. -/
class Wire (ω : Type) where
  version : ω → Version
  spid : ω → Int
  database : ω → Option String
  rowCount : ω → Int
  status : ω → Option Int
  outputs : ω → Request.Outputs
  messages : ω → List WireMessage
  /-- The result set that came in last, of which rows might be left. Neither a row count nor
  another request takes it away. -/
  resultSet : ω → Option WireResult
  isIdle : ω → Bool
  /-- The type that a declaration names, if the protocol knows it. -/
  declaredType? : ω → String → Option SqlType
  submitBatch : String → ω → Except WireFailure Unit × ω
  submitCall : Procedure → List BoundParameter → ω → Except WireFailure Unit × ω
  firstResult : (isCall : Bool) → ω → Except WireFailure Bool × ω
  nextResult : ω → Except WireFailure (Option Bool) × ω
  nextRow : ω → Except WireFailure (Option (List Value)) × ω
  bulkCopy : List BulkColumn → List (List Value) → ω → Except WireFailure Unit × ω
  cancel : ω → Except WireFailure Unit × ω
  close : ω → Except WireFailure Unit × ω
  setTimeout : Option Int → ω → ω
  /-- A bound on the results and rows that the response still has. -/
  remaining : ω → Nat
  remaining_firstResult : ∀ isCall w found, (firstResult isCall w).1 = .ok found →
    found = true ∨
      (WireResult.arrived? (resultSet w) (resultSet (firstResult isCall w).2)).isSome = true →
    remaining (firstResult isCall w).2 < remaining w
  remaining_nextResult : ∀ w found, (nextResult w).1 = .ok found →
    found = some true ∨
      (WireResult.arrived? (resultSet w) (resultSet (nextResult w).2)).isSome = true →
    remaining (nextResult w).2 < remaining w
  remaining_nextRow : ∀ w row, (nextRow w).1 = .ok (some row) →
    remaining (nextRow w).2 < remaining w
  remaining_nextRow_le : ∀ w, remaining (nextRow w).2 ≤ remaining w

end TdsClient
