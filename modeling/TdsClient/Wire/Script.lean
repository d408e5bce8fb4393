import TdsClient.Number.Total
import TdsClient.Wire.Basic

/-!
# Scripted wires

A stand-in for the protocol. A script lists the steps of a response; each
may take messages back, bring others and fail, and otherwise is a result
set or a row count. With the last row count the response is complete.
Operations other than reading can be made to bring messages and to fail.

Rows that are not read stay, also if another request is submitted, until
the protocol goes on to a later result.

## Main definitions

* `WireStep`, `WireRow`, `Incident` — the items of a script.
* `WireScript` — the protocol that plays them.
* `WireEvent` — what was asked of it.
-/

namespace TdsClient

/-- Messages that arrive, and a failure that may follow. -/
structure Incident where
  messages : List WireMessage := []
  failure : Option WireFailure := none

/-- A row and what happens when it is read. -/
structure WireRow where
  values : List Value
  incident : Incident := {}

/-- A step of a response: how many messages are taken back, what happens, and a result set or a
row count. -/
structure WireStep where
  dropped : Nat := 0
  incident : Incident := {}
  columns : Option (List WireColumn) := none
  rows : List WireRow := []
  rowCount : Int := -1

/-- What happens in operations other than reading. -/
structure Incidents where
  submit : Incident := {}
  respond : Incident := {}
  cancel : Incident := {}
  bulk : Incident := {}
  close : Incident := {}

/-- What was asked of a protocol. -/
inductive WireEvent
  | batch (sql : String)
  | call (procedure : Procedure) (parameters : List BoundParameter)
  | response
  | firstOfBatch
  | firstOfCall
  | nextResult
  | bulkCopy (columns : List BulkColumn) (rows : List (List Value))
  | bulkEnd
  | cancel
  | close
  | timeout (seconds : Option Int)

/-- A protocol that plays a script. -/
structure WireScript where
  version : Version := .v74
  spid : Int := 60
  database : Option String := some "master"
  steps : List WireStep := []
  incidents : Incidents := {}
  /-- The types that declarations name. -/
  declaredType? : String → Option SqlType := fun _ => none
  messages : List WireMessage := []
  rowCount : Int := -1
  hasStatus : Bool := false
  lastStatus : Option Int := none
  outputs : Request.Outputs := []
  resultSet : Option WireResult := none
  rows : List WireRow := []
  isIdle : Bool := true
  events : List WireEvent := []

namespace WireScript

/-- Records an event. -/
def record (event : WireEvent) (w : WireScript) : WireScript :=
  { w with events := w.events ++ [event] }

/-- The result of an incident, if nothing fails. -/
def Incident.result {α : Type} (i : Incident) (a : α) : Except WireFailure α :=
  match i.failure with
  | some failure => .error failure
  | none => .ok a

/-- Messages arrive. -/
def receive (i : Incident) (w : WireScript) : WireScript :=
  { w with messages := w.messages ++ i.messages }

/-- An operation that is recorded, and in which something happens. -/
def undergo (event : WireEvent) (i : Incident) (w : WireScript) :
    Except WireFailure Unit × WireScript :=
  (Incident.result i (), (w.record event).receive i)

/-- One operation, and another one if it succeeds. -/
def andThen (first second : WireScript → Except WireFailure Unit × WireScript) (w : WireScript) :
    Except WireFailure Unit × WireScript :=
  match first w with
  | (.ok (), w) => second w
  | (.error failure, w) => (.error failure, w)

/-- Submits a request and begins its response. -/
def submit (event : WireEvent) (w : WireScript) : Except WireFailure Unit × WireScript :=
  andThen (undergo event w.incidents.submit) (undergo .response w.incidents.respond)
    { w with messages := [], isIdle := false }

/-- A result set with its rows, in place of the one before. -/
def hold (columns : List WireColumn) (rows : List WireRow) (w : WireScript) : WireScript :=
  { w with resultSet := some ⟨(w.resultSet.map (·.serial + 1)).getD 0, columns⟩, rows }

/-- Takes the next step, and says whether it is a result set or the response goes on. -/
def takeStep (w : WireScript) : Except WireFailure Bool × WireScript :=
  match w.steps with
  | [] => (.ok false, { w with isIdle := true })
  | step :: rest =>
    let kept := w.messages.take (w.messages.length - step.dropped)
    let w := { w with steps := rest, messages := kept ++ step.incident.messages }
    match step.incident.failure, step.columns with
    | some failure, _ => (.error failure, w)
    | none, some columns => (.ok true, w.hold columns step.rows)
    | none, none =>
      let w := { w with rowCount := step.rowCount }
      if rest.isEmpty then (.ok false, { w with isIdle := true }) else (.ok true, w)

/-- Reads the next row. -/
def nextRow (w : WireScript) : Except WireFailure (Option (List Value)) × WireScript :=
  match w.rows with
  | [] => (.ok none, w)
  | row :: rest =>
    (Incident.result row.incident (some row.values),
      { w with rows := rest }.receive row.incident)

/-- Reads rows that nobody asked for. A row that fails is the last one. -/
def skipRows (w : WireScript) : List WireRow → Except WireFailure Unit × WireScript
  | [] => (.ok (), { w with rows := [] })
  | row :: rest =>
    let w := w.receive row.incident
    match row.incident.failure with
    | some failure => (.error failure, { w with rows := rest })
    | none => w.skipRows rest

/-- What a step taken behind rows means: there is no flag for the end of a response. -/
def laterFlag (found : Bool) : Option Bool := if found then some true else none

/-- Goes on to the next result when no rows are left. -/
def laterResult (w : WireScript) : Except WireFailure (Option Bool) × WireScript :=
  if w.isIdle then (.ok (some false), w)
  else
    let (found, w) := w.takeStep
    (found.map laterFlag, w)

/-- Goes on to the next result behind the rows that are left. -/
def nextResult (w : WireScript) : Except WireFailure (Option Bool) × WireScript :=
  let w := w.record .nextResult
  match w.skipRows w.rows with
  | (.error failure, w) => (.error failure, w)
  | (.ok (), w) => w.laterResult

/-- Asks for the first result. -/
def firstResult (isCall : Bool) (w : WireScript) : Except WireFailure Bool × WireScript :=
  (w.record (if isCall then .firstOfCall else .firstOfBatch)).takeStep

/-- Copies rows. -/
def bulkCopy (columns : List BulkColumn) (rows : List (List Value)) (w : WireScript) :
    Except WireFailure Unit × WireScript :=
  andThen (undergo (.bulkCopy columns rows) w.incidents.bulk)
    (fun w => (.ok (), { w.record .bulkEnd with rowCount := rows.length })) w

/-- Rows and steps that are left. -/
def remaining (w : WireScript) : Nat :=
  Number.total (w.steps.map fun step => step.rows.length + 1) + w.rows.length

/-- A step that does not say that something was found brings no result set. -/
theorem takeStep_found {w : WireScript} {found : Bool} (h : w.takeStep.1 = .ok found) :
    found = true ∧ remaining w.takeStep.2 < remaining w ∨
      found = false ∧ w.takeStep.2.resultSet = w.resultSet := by
  unfold takeStep at h ⊢
  split at h
  · cases h
    exact .inr ⟨rfl, rfl⟩
  next step rest heq =>
    simp only at h ⊢
    split at h
    · cases h
    · cases h
      left
      refine ⟨rfl, ?_⟩
      simp only [remaining, hold, heq, List.map_cons, Number.total_cons]
      omega
    · split at h
      next hlast =>
        cases h
        rw [if_pos hlast]
        exact .inr ⟨rfl, rfl⟩
      next hmore =>
        cases h
        left
        rw [if_neg hmore]
        refine ⟨rfl, ?_⟩
        simp only [remaining, heq, List.map_cons, Number.total_cons]
        omega

theorem remaining_takeStep (w : WireScript) {previous : Option WireResult}
    (hprevious : previous = w.resultSet) (found : Bool) (h : w.takeStep.1 = .ok found)
    (hfound : found = true ∨
      (WireResult.arrived? previous w.takeStep.2.resultSet).isSome = true) :
    remaining w.takeStep.2 < remaining w := by
  rcases takeStep_found h with ⟨_, hless⟩ | ⟨hnone, hsame⟩
  · exact hless
  · rw [hsame, hprevious, hnone] at hfound
    simp at hfound

theorem skipRows_kept (w : WireScript) (rows : List WireRow)
    (h : (w.skipRows rows).1 = .ok ()) :
    remaining (w.skipRows rows).2 ≤ remaining w ∧
      (w.skipRows rows).2.resultSet = w.resultSet := by
  induction rows generalizing w with
  | nil => simp [skipRows, remaining]
  | cons row rest ih =>
    unfold skipRows at h ⊢
    simp only at h ⊢
    split at h
    · cases h
    · exact ih _ h

theorem remaining_laterResult (w : WireScript) (found : Option Bool)
    (h : w.laterResult.1 = .ok found)
    (hfound : found = some true ∨
      (WireResult.arrived? w.resultSet w.laterResult.2.resultSet).isSome = true) :
    remaining w.laterResult.2 < remaining w := by
  unfold laterResult at h hfound ⊢
  by_cases hidle : w.isIdle = true
  · rw [if_pos hidle] at h hfound
    cases h
    simp at hfound
  · rw [if_neg hidle] at h hfound ⊢
    cases hstep : w.takeStep.1 with
    | error failure =>
        simp only [hstep] at h
        cases h
    | ok flag =>
        simp only [hstep] at h
        cases h
        refine remaining_takeStep w rfl flag hstep (hfound.imp (fun hflag => ?_) id)
        cases flag with
        | true => rfl
        | false => cases hflag

theorem remaining_nextResult (w : WireScript) (found : Option Bool)
    (h : w.nextResult.1 = .ok found)
    (hfound : found = some true ∨
      (WireResult.arrived? w.resultSet w.nextResult.2.resultSet).isSome = true) :
    remaining w.nextResult.2 < remaining w := by
  unfold nextResult at h hfound ⊢
  simp only at h hfound ⊢
  rcases heq : (w.record .nextResult).skipRows (w.record .nextResult).rows with ⟨ended, skipped⟩
  cases ended with
  | error failure =>
      rw [heq] at h
      cases h
  | ok =>
      obtain ⟨hle, hset⟩ := skipRows_kept _ _ (by rw [heq])
      rw [heq] at h hfound hle hset
      rw [show w.resultSet = skipped.resultSet from hset.symm] at hfound
      exact Nat.lt_of_lt_of_le (remaining_laterResult skipped found h hfound) hle

theorem remaining_nextRow_le (w : WireScript) : remaining w.nextRow.2 ≤ remaining w := by
  unfold nextRow
  split
  · exact Nat.le_refl _
  next heq =>
    simp only [remaining, receive, heq, List.length_cons]
    omega

theorem remaining_nextRow (w : WireScript) (row : List Value) (h : w.nextRow.1 = .ok (some row)) :
    remaining w.nextRow.2 < remaining w := by
  unfold nextRow at h ⊢
  split at h
  · cases h
  next heq =>
    simp only [remaining, receive, heq, List.length_cons]
    omega

instance : Wire WireScript where
  version := version
  spid := spid
  database := database
  rowCount := rowCount
  status w := if w.hasStatus then w.lastStatus else none
  outputs := outputs
  messages := messages
  resultSet := resultSet
  isIdle := isIdle
  declaredType? := declaredType?
  submitBatch sql := submit (.batch sql)
  submitCall procedure parameters := submit (.call procedure parameters)
  firstResult := firstResult
  nextResult := nextResult
  nextRow := nextRow
  bulkCopy := bulkCopy
  cancel w := undergo .cancel w.incidents.cancel w
  close w := undergo .close w.incidents.close w
  setTimeout seconds := record (.timeout seconds)
  remaining := remaining
  remaining_firstResult _ _ := remaining_takeStep _ rfl
  remaining_nextResult := remaining_nextResult
  remaining_nextRow := remaining_nextRow
  remaining_nextRow_le := remaining_nextRow_le

end WireScript

end TdsClient
