import TdsClient.Number.Total
import TdsClient.Session.Basic

/-!
# Scripted sessions

A stand-in for a server: a script lists, for the text of each request, the
response that it gets. Responses, results and rows may bring messages when
they are reached, and may fail after that. A failure drops the results
that were still to come, but not the rows of the current one.

A batch is looked up by its text, the execution of a statement with
parameters by the statement, and any other call by the procedure's name.

## Main definitions

* `Playback` — what happens when an item of a script is reached.
* `Response`, `ScriptedResult`, `ScriptedRow` — the items.
* `ScriptedSession` — the session that plays them.
-/

namespace TdsClient

/-- What happens when an item is reached: messages arrive, and then it may fail. -/
structure Playback where
  messages : List Message := []
  failure : Option SessionFailure := none

/-- A row and what happens when it is read. -/
structure ScriptedRow where
  values : List Value
  playback : Playback := {}

/-- A result: columns with rows, or only a row count. -/
structure ScriptedResult where
  playback : Playback := {}
  columns : Option (List Column) := none
  rows : List ScriptedRow := []
  rowCount : Option Int := none

/-- A response to a request. It may change the current database. -/
structure Response where
  playback : Playback := {}
  results : List ScriptedResult := []
  database : Option String := none
  returnStatus : Option Int := none
  outputs : Request.Outputs := []

/-- A session that plays a script: what it says of itself, its responses by text, what happens
at the next bulk copies, and how far the current response was read. -/
structure ScriptedSession where
  version : Version := .v74
  spid : Int := 55
  database : Option String := some "master"
  responses : List (String × Response) := []
  bulk : List Playback := []
  response : Response := {}
  pending : List ScriptedResult := []
  current : Option ScriptedResult := none
  rows : List ScriptedRow := []
  rowCount : Int := -1
  returnStatus : Option Int := none

namespace ScriptedSession

/-- Adds a response; it replaces earlier ones for the same text. -/
def respond (s : ScriptedSession) (text : String) (response : Response) : ScriptedSession :=
  { s with responses := (text, response) :: s.responses.filter (·.1 ≠ text) }

/-- The response for a text; unless the script has one it is empty. -/
def responseFor (s : ScriptedSession) (text : Option String) : Response :=
  (text.bind fun t => s.responses.lookup t).getD {}

/-- The delivery of an item that gives a result unless it fails. -/
def play {α : Type} (p : Playback) (result : α) : Delivery α :=
  ⟨p.messages, match p.failure with
    | some failure => .error failure
    | none => .ok result⟩

/-- The results still to come after an item was reached. -/
def pendingAfter (p : Playback) (pending : List ScriptedResult) : List ScriptedResult :=
  if p.failure.isSome then [] else pending

/-- Starts the response for a text. -/
def submit (text : Option String) (s : ScriptedSession) : Delivery Unit × ScriptedSession :=
  let response := s.responseFor text
  (play response.playback (),
    { s with
      response
      database := response.database <|> s.database
      pending := pendingAfter response.playback response.results
      current := none
      rows := []
      rowCount := -1
      returnStatus := none })

/-- The text by which a call is looked up; a statement that is no text has no response. -/
def callText (procedure : String) (parameters : List BoundParameter) : Option String :=
  if procedure = Request.executeSql then
    match parameters.head?.map BoundParameter.value with
    | some (.text statement) => some statement
    | _ => none
  else some procedure

/-- Moves on to the next result. -/
def nextResult (s : ScriptedSession) : Delivery (Option (List Column)) × ScriptedSession :=
  match s.pending with
  | [] =>
    (.silent none, { s with current := none, rows := [], returnStatus := s.response.returnStatus })
  | result :: rest =>
    let pending := pendingAfter result.playback rest
    match result.playback.failure, result.columns with
    | some _, _ => (play result.playback none, { s with pending, current := none, rows := [] })
    | none, none =>
      (play result.playback (some []),
        { s with pending, current := none, rows := [], rowCount := result.rowCount.getD (-1) })
    | none, some columns =>
      (play result.playback (some columns),
        { s with pending, current := some result, rows := result.rows, rowCount := -1 })

/-- The row count of a result that was read to its end. -/
def finalCount (result : ScriptedResult) : Int :=
  match result.rowCount with
  | some n => if 0 ≤ n then n else result.rows.length
  | none => result.rows.length

/-- Reads the next row of the current result. -/
def fetchRow (s : ScriptedSession) : Delivery (Option (List Value)) × ScriptedSession :=
  match s.current, s.rows with
  | none, _ => (.silent none, s)
  | some result, [] => (.silent none, { s with rowCount := finalCount result })
  | some _, row :: rest =>
    (play row.playback (some row.values),
      { s with rows := rest, pending := pendingAfter row.playback s.pending })

/-- Takes rows for a table. -/
def bulkCopy (rows : List (List Value)) (s : ScriptedSession) : Delivery Int × ScriptedSession :=
  let count : Int := rows.length
  match s.bulk with
  | [] => (.silent count, { s with rowCount := count })
  | p :: rest =>
    (play p count,
      { s with rowCount := count, bulk := rest, pending := pendingAfter p s.pending })

/-- Results and rows that are still to come. -/
def remaining (s : ScriptedSession) : Nat :=
  Number.total (s.pending.map fun result => result.rows.length + 1) + s.rows.length

theorem sum_pendingAfter_le (p : Playback) (pending : List ScriptedResult) :
    Number.total ((pendingAfter p pending).map fun result => result.rows.length + 1) ≤
      Number.total (pending.map fun result => result.rows.length + 1) := by
  unfold pendingAfter
  split <;> simp

theorem remaining_nextResult (s : ScriptedSession) (columns : List Column)
    (h : (nextResult s).1.result = .ok (some columns)) :
    remaining (nextResult s).2 < remaining s := by
  unfold nextResult at h ⊢
  split at h
  · cases h
  next result rest heq =>
    have le := sum_pendingAfter_le result.playback rest
    simp only at h ⊢
    split at h
    · simp_all [play]
    all_goals
      simp only [remaining, heq, List.map_cons, Number.total_cons, List.length_nil]
      omega

theorem remaining_fetchRow_le (s : ScriptedSession) :
    remaining (fetchRow s).2 ≤ remaining s := by
  unfold fetchRow
  split
  · exact Nat.le_refl _
  next heq => simp [remaining, heq]
  next row rest _ heq =>
    have le := sum_pendingAfter_le row.playback s.pending
    simp only [remaining, heq, List.length_cons]
    omega

theorem remaining_fetchRow (s : ScriptedSession) (row : List Value)
    (h : (fetchRow s).1.result = .ok (some row)) : remaining (fetchRow s).2 < remaining s := by
  unfold fetchRow at h ⊢
  split at h
  · cases h
  · cases h
  next current next rest hc heq =>
    have le := sum_pendingAfter_le next.playback s.pending
    simp only [heq, remaining, List.length_cons]
    omega

instance : Session ScriptedSession where
  version := version
  spid := spid
  database := database
  rowCount := rowCount
  returnStatus := returnStatus
  outputs s := s.response.outputs
  setTimeout _ s := s
  submitBatch sql := submit (some sql)
  submitCall procedure parameters := submit (callText procedure parameters)
  nextResult := nextResult
  fetchRow := fetchRow
  bulkCopy _ _ rows := bulkCopy rows
  close s := s
  remaining := remaining
  remaining_nextResult := remaining_nextResult
  remaining_fetchRow := remaining_fetchRow
  remaining_fetchRow_le := remaining_fetchRow_le

end ScriptedSession

end TdsClient
