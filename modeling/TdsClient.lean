import TdsClient.Connect
import TdsClient.Connection.Action
import TdsClient.Pool.Script
import TdsClient.Session.Recorded
import TdsClient.Session.Script
import TdsClient.Wire.Adapter
import TdsClient.Wire.Script
import TdsClient.Value.Text
import TdsClient.Proofs.Operation
import TdsClient.Proofs.Connection.Journal
import TdsClient.Proofs.Connection.Move
import TdsClient.Proofs.Connection.Walk
import TdsClient.Proofs.Cursor.Walk
import TdsClient.Proofs.Run
import TdsClient.Proofs.Cursor.Rows
import TdsClient.Proofs.Isolation
import TdsClient.Proofs.Binding.Fit
import TdsClient.Proofs.Binding.Soundness
import TdsClient.Proofs.Cursor.Showing
import TdsClient.Proofs.Cursor.Traversal
import TdsClient.Proofs.Statement.Call
import TdsClient.Proofs.Connection.Report
import TdsClient.Proofs.Cursor.Coherence
import TdsClient.Proofs.Cursor.Assertion
import TdsClient.Proofs.Cursor.Failure
import TdsClient.Proofs.Silence
import TdsClient.Proofs.Pool.Sharing
import TdsClient.Proofs.Pool.Ownership
import TdsClient.Proofs.Pool.WriteOff
import TdsClient.Proofs.Pool.WakeUp
import TdsClient.Proofs.Cursor.Block
import TdsClient.Proofs.Cursor.Escalation
import TdsClient.Proofs.Connection.Footprint
import TdsClient.Proofs.Cursor.Footprint
import TdsClient.Proofs.Footprint
import TdsClient.Proofs.Text.Mention
import TdsClient.Proofs.Commit
import TdsClient.Proofs.Leave
import TdsClient.Proofs.Mode
import TdsClient.Proofs.Statement.Names
import TdsClient.Proofs.Cursor.Closing
import TdsClient.Proofs.Wire.Reading
import TdsClient.Proofs.Binding.Wrapped
import TdsClient.Proofs.Connection.BulkInsert
import TdsClient.Proofs.Pool.GivingBack
import TdsClient.Proofs.Statement.Lexing
import TdsClient.Proofs.Text.Decoding
import TdsClient.Proofs.Binding.Truncation
import TdsClient.Proofs.Number.Rounding
import TdsClient.Proofs.Binding.Precision
import TdsClient.Proofs.Binding.Widening
import TdsClient.Proofs.Binding.Range
import TdsClient.Proofs.Session.Submission
import TdsClient.Proofs.Cursor.Repetition
import TdsClient.Proofs.Statement.Declarations
import TdsClient.Proofs.Cursor.Declarations
import TdsClient.Proofs.Text.Characterwise
import TdsClient.Proofs.Statement.ReadBack
import TdsClient.Proofs.Wire.Delivery
import TdsClient.Proofs.Statement.Procedure
import TdsClient.Proofs.Cursor.Procedure
import TdsClient.Proofs.Backoff
import TdsClient.Proofs.Pool.Reuse
import TdsClient.Proofs.Statement.Identifiers
import TdsClient.Proofs.Value.Comparison
import TdsClient.Proofs.Row.Views
import TdsClient.Proofs.RowList.Access
import TdsClient.Proofs.Number.Shortest
import TdsClient.Proofs.Text.Quoting
import TdsClient.Proofs.Statement.Results
