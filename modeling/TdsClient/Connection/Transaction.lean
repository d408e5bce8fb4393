import TdsClient.Connection.Statement
import TdsClient.Text.Bracketed

/-!
# Transactions and settings

Unless it is in autocommit mode, a connection always has a transaction in
progress, which the server starts with the first statement. Switching the
mode commits the one in progress when the mode was off.

A connection is set up by statements of its own, and while it is used in a
block it commits and closes when the block is left. After a failure in the
block it closes without committing.

## Main definitions

* `Connection.setUp` — what a new connection executes.
* `commit`, `rollback`, `setAutocommit`, `setTimeout`, `useDatabase`.
* `close`, `leave` — the end of its use.
-/

namespace TdsClient.Connection

variable {σ : Type}

/-- The settings that a session should have. -/
def sessionSettings : String :=
  "SET ARITHABORT ON;SET ANSI_DEFAULTS ON;SET CONCAT_NULL_YIELDS_NULL ON;SET TEXTSIZE 2147483647;"

/-- Commits the transaction in progress, if there is one. -/
def commitStatement : String := "IF @@TRANCOUNT > 0 COMMIT TRANSACTION"

/-- Rolls the transaction in progress back, if there is one. -/
def rollbackStatement : String := "IF @@TRANCOUNT > 0 ROLLBACK TRANSACTION"

/-- Makes the server start transactions, or not. -/
def implicitTransactions (on : Bool) : String :=
  "SET IMPLICIT_TRANSACTIONS " ++ (if on then "ON" else "OFF")

/-- Switches the mode. -/
def switchStatement (current wanted : Bool) : String :=
  (if current then "" else commitStatement ++ ";") ++ implicitTransactions (!wanted) ++ ";"

/-- The statement that makes a database the current one. -/
def useStatement (database : String) : String := "USE " ++ Text.Bracketed.quote database

/-- Longest timeout in seconds: the largest integer of 32 bits. -/
def maxTimeout : Int := 2147483647

variable [Session σ]

/-- Sets a new connection up. -/
def setUp (ansiDefaults : Bool) : Op σ Unit := do
  if ansiDefaults then execute sessionSettings
  unless (← get).autocommit do execute (implicitTransactions true)

/-- Commits the transaction in progress; in autocommit mode there is none. -/
def commit : Op σ Unit := do
  checkUsable
  unless (← get).autocommit do execute commitStatement

/-- Rolls the transaction in progress back; in autocommit mode there is none. -/
def rollback : Op σ Unit := do
  checkUsable
  unless (← get).autocommit do execute rollbackStatement

/-- Switches autocommit mode. -/
def setAutocommit (value : Value) : Op σ Unit := do
  checkUsable
  match value with
  | .bool wanted =>
    execute (switchStatement (← get).autocommit wanted)
    modify fun c => { c with autocommitMode := value }
  | _ => throw (.misuse (.settingKind .autocommit))

/-- Sets the timeout of requests in seconds; zero is none. -/
def setTimeout (value : Value) : Op σ Unit := do
  checkUsable
  match value with
  | .int n =>
    if 0 ≤ n ∧ n ≤ maxTimeout then
      modify fun c => { c with session := Session.setTimeout n c.session, timeout := value }
    else throw (.misuse (.valueOutOfRange value))
  | _ => throw (.misuse (.settingKind .timeout))

/-- Switches to another database. -/
def useDatabase (value : Value) : Op σ Unit := do
  checkUsable
  match value with
  | .text name => execute (useStatement name)
  | _ => throw (.misuse (.settingKind .databaseName))

/-- The connection after it was closed. -/
def closed (c : Connection σ) : Connection σ :=
  { c with
    isOpen := false
    session := Session.close c.session
    cursors := c.cursors.map (·.reset .unused)
    active := none }

/-- Closes the connection. The server rolls a transaction in progress back. -/
def close : Op σ Unit := do
  checkOpen
  modify closed

/-- Leaves the block in which the connection is used. -/
def leave (failed : Bool) : Op σ Unit := do
  let c ← get
  if c.isOpen then
    unless failed || c.isDead || c.autocommit do commit
    close

/-- The expression that shows a connection. -/
def literal (c : Connection σ) : String :=
  if c.isOpen then
    "<Connection spid=" ++ toString (Session.spid c.session) ++ " tds_version=" ++
      (Session.version c.session).name?.getD "None" ++ ">"
  else "<Connection closed>"

end TdsClient.Connection
