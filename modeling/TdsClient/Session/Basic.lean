import TdsClient.Column
import TdsClient.Statement.Request

/-!
# Sessions

The client never speaks to a server itself. It uses a session, which sends
requests and reads what comes back: one request at a time, its results one
after the other, and the rows of a result one after the other. Messages of
the server arrive during any of these operations, whether it succeeds or
fails, so each operation delivers messages beside its result.

A response is finite. How much of it is left is bounded by a number that
gets smaller with every result and every row, and so whatever reads a
response to its end ends as well.

## Main definitions

* `Session` — the operations.
* `SessionFailure` — why one of them fails.
* `Delivery` — what one of them gives.
-/

namespace TdsClient

/-- Why an operation of a session fails. -/
inductive SessionFailure
  /-- The server rejects the request. The class is the one to report if no message tells. -/
  | rejected (text : String) (errorClass : ErrorClass)
  /-- The session cannot be used any more. -/
  | lost (text : String) (timedOut : Bool)
  /-- A value cannot be converted on its way to the server or from it. -/
  | badData (text : String)
  /-- A failure that is no business of the client. -/
  | unexpected (kind : ErrorKind)
deriving DecidableEq

/-- The messages that arrive during an operation, in order, and its result. -/
structure Delivery (α : Type) where
  messages : List Message
  result : Except SessionFailure α

namespace Delivery

variable {α : Type}

/-- A result without messages. -/
def silent (a : α) : Delivery α := ⟨[], .ok a⟩

end Delivery

/-- A session. The next result of a response is a list of columns, which is empty if the result
only has a row count, and there is none when the response is complete. The row count is the one
of the last completed statement, or `-1`. Values returned for parameters go with the places of
the parameters in the request. -/
class Session (σ : Type) where
  version : σ → Version
  spid : σ → Int
  database : σ → Option String
  rowCount : σ → Int
  returnStatus : σ → Option Int
  outputs : σ → Request.Outputs
  setTimeout : Int → σ → σ
  submitBatch : String → σ → Delivery Unit × σ
  submitCall : String → List BoundParameter → σ → Delivery Unit × σ
  nextResult : σ → Delivery (Option (List Column)) × σ
  fetchRow : σ → Delivery (Option (List Value)) × σ
  bulkCopy : List Column → List String → List (List Value) → σ → Delivery Int × σ
  close : σ → σ
  /-- A bound on the results and rows that the response still has. -/
  remaining : σ → Nat
  remaining_nextResult : ∀ s columns,
    (nextResult s).1.result = .ok (some columns) → remaining (nextResult s).2 < remaining s
  remaining_fetchRow : ∀ s row,
    (fetchRow s).1.result = .ok (some row) → remaining (fetchRow s).2 < remaining s
  remaining_fetchRow_le : ∀ s, remaining (fetchRow s).2 ≤ remaining s

end TdsClient
