import TdsClient.Wire.Basic

/-!
# Sessions over the wire

A session made of the protocol. It remembers how many messages of the
protocol's list it has delivered, and delivers the others after each
operation, whether that succeeds or fails. Messages of the login are not
delivered.

## Main definitions

* `WireSession` — the session.
* `WireSession.invoke` — an operation of the protocol as one of the session.

## Main results

* `messages_invoke` — what an operation delivers.
-/

namespace TdsClient

/-- A session over the wire: how many messages were delivered, whether the first result of the
response was asked for, and whether the request was a call. -/
structure WireSession (ω : Type) where
  wire : ω
  seen : Nat
  isStarted : Bool := false
  isCall : Bool := false

namespace WireSession

variable {ω α : Type} [Wire ω]

/-- A session over a protocol that has logged in. -/
def ofWire (wire : ω) : WireSession ω where
  wire := wire
  seen := (Wire.messages wire).length

/-- Runs an operation of the protocol and delivers the messages that are new. If the protocol
took messages back there may be fewer than were delivered before, and then none is new. -/
def invoke (work : ω → Except WireFailure α × ω) (s : WireSession ω) :
    Delivery α × WireSession ω :=
  let (result, wire) := work s.wire
  let messages := Wire.messages wire
  (⟨(messages.drop s.seen).map WireMessage.toMessage, result.mapError WireFailure.toSession⟩,
    { s with wire, seen := messages.length })

/-- An operation delivers what stands in the list behind the messages delivered before. -/
theorem messages_invoke (work : ω → Except WireFailure α × ω) (s : WireSession ω) :
    (s.invoke work).1.messages =
        ((Wire.messages (work s.wire).2).drop s.seen).map WireMessage.toMessage ∧
      (s.invoke work).2.seen = (Wire.messages (work s.wire).2).length :=
  ⟨rfl, rfl⟩

/-- The session as a request begins, which empties the list of messages. -/
def restart (s : WireSession ω) (isCall : Bool) : WireSession ω :=
  { s with seen := 0, isStarted := false, isCall }

/-- Submits a batch. -/
def submitBatch (sql : String) (s : WireSession ω) : Delivery Unit × WireSession ω :=
  (s.restart false).invoke (Wire.submitBatch sql)

/-- Submits a call. -/
def submitCall (procedure : String) (parameters : List BoundParameter) (s : WireSession ω) :
    Delivery Unit × WireSession ω :=
  (s.restart true).invoke (Wire.submitCall (.ofName procedure) parameters)

/-- Goes on to the next result. After the last one there are none, and the protocol is not
asked. -/
def advance (isStarted isCall : Bool) (w : ω) : Except WireFailure (Option Bool) × ω :=
  if isStarted then
    if Wire.isIdle w then (.ok none, w) else Wire.nextResult w
  else
    let (found, w) := Wire.firstResult isCall w
    (found.map some, w)

/-- What comes next: a result set if another one has arrived, whatever the protocol says was
found, and else a row count if it says that something was. -/
def reported (previous current : Option WireResult) (found : Option Bool) :
    Option (List Column) :=
  match WireResult.arrived? previous current with
  | some set => some (set.columns.map WireColumn.toColumn)
  | none => if found = some true then some [] else none

/-- A delivery with its result changed. -/
def mapDelivery {β : Type} (f : α → β) (d : Delivery α) : Delivery β :=
  ⟨d.messages, d.result.map f⟩

/-- The next result of the response. -/
def nextResult (s : WireSession ω) : Delivery (Option (List Column)) × WireSession ω :=
  let (delivery, after) :=
    { s with isStarted := true }.invoke (advance s.isStarted s.isCall)
  (mapDelivery (reported (Wire.resultSet s.wire) (Wire.resultSet after.wire)) delivery, after)

/-- The next row of the current result set. Before there was any the protocol is not asked. -/
def fetchRow (s : WireSession ω) : Delivery (Option (List Value)) × WireSession ω :=
  match Wire.resultSet s.wire with
  | some _ => s.invoke Wire.nextRow
  | none => (.silent none, s)

/-- Columns with the types that are declared for them. -/
def bulkColumns? (w : ω) (columns : List Column) (declarations : List String) :
    Option (List BulkColumn) :=
  (columns.zip declarations).mapM fun (c, declaration) =>
    (Wire.declaredType? w declaration).map fun type =>
      ⟨c.name, type, WireColumn.flagsOf c.nullable c.identity⟩

/-- Copies rows. A declaration that cannot be read is refused before anything is sent. -/
def bulkCopy (columns : List Column) (declarations : List String) (rows : List (List Value))
    (s : WireSession ω) : Delivery Int × WireSession ω :=
  match bulkColumns? s.wire columns declarations with
  | none => (⟨[], .error (.unexpected (Misuse.kind .invalidDeclaration))⟩, s)
  | some columns =>
    let (delivery, after) := s.invoke (Wire.bulkCopy columns rows)
    (mapDelivery (fun _ => Wire.rowCount after.wire) delivery, after)

/-- Cancels the request, if there is one. -/
def cancel (s : WireSession ω) : Delivery Unit × WireSession ω := s.invoke Wire.cancel

/-- Closes the connection. Only a failure that no connection has is passed on. -/
def close (s : WireSession ω) : Except SessionFailure Unit × WireSession ω :=
  let (result, wire) := Wire.close s.wire
  let after := { s with wire }
  match result with
  | .error (.unexpected kind) => (.error (.unexpected kind), after)
  | _ => (.ok (), after)

/-- Sets the timeout of requests in seconds; zero is none. -/
def setTimeout (seconds : Int) (s : WireSession ω) : WireSession ω :=
  { s with wire := Wire.setTimeout (if seconds = 0 then none else some seconds) s.wire }

/-- Something is reported only if the protocol found something or a result set arrived. -/
theorem found_of_reported {previous current : Option WireResult} {found : Option Bool}
    {columns : List Column} (h : reported previous current found = some columns) :
    found = some true ∨ (WireResult.arrived? previous current).isSome = true := by
  unfold reported at h
  split at h
  next set harrived => exact .inr (by rw [harrived]; rfl)
  next =>
    split at h
    next hfound => exact .inl hfound
    · cases h

theorem remaining_nextResult (s : WireSession ω) (columns : List Column)
    (h : (nextResult s).1.result = .ok (some columns)) :
    Wire.remaining (nextResult s).2.wire < Wire.remaining s.wire := by
  have hadvanced : ∃ found, (advance s.isStarted s.isCall s.wire).1 = .ok found ∧
      reported (Wire.resultSet s.wire)
        (Wire.resultSet (advance s.isStarted s.isCall s.wire).2) found = some columns := by
    simp only [nextResult, invoke, mapDelivery] at h
    rcases heq : (advance s.isStarted s.isCall s.wire).1 with failure | found
    · rw [heq] at h
      cases h
    · rw [heq] at h
      exact ⟨found, rfl, Except.ok.inj h⟩
  obtain ⟨found, hok, hreported⟩ := hadvanced
  have hfound := found_of_reported hreported
  show Wire.remaining (advance s.isStarted s.isCall s.wire).2 < Wire.remaining s.wire
  unfold advance at hok hfound ⊢
  split at hok
  next hstarted =>
    rw [if_pos hstarted] at hfound ⊢
    split at hok
    next hidle =>
      rw [if_pos hidle] at hfound
      cases hok
      rcases hfound with hnone | harrived
      · cases hnone
      · simp at harrived
    next hbusy =>
      rw [if_neg hbusy] at hfound ⊢
      exact Wire.remaining_nextResult _ _ hok hfound
  next hfresh =>
    rw [if_neg hfresh] at hfound ⊢
    cases hfirst : (Wire.firstResult s.isCall s.wire).1 with
    | error failure =>
        simp only [hfirst] at hok
        cases hok
    | ok first =>
        simp only [hfirst] at hok
        cases hok
        exact Wire.remaining_firstResult _ _ _ hfirst
          (hfound.imp (fun h => Option.some.inj h) id)

theorem remaining_fetchRow_le (s : WireSession ω) :
    Wire.remaining (fetchRow s).2.wire ≤ Wire.remaining s.wire := by
  unfold fetchRow
  split
  · exact Wire.remaining_nextRow_le _
  · exact Nat.le_refl _

theorem remaining_fetchRow (s : WireSession ω) (row : List Value)
    (h : (fetchRow s).1.result = .ok (some row)) :
    Wire.remaining (fetchRow s).2.wire < Wire.remaining s.wire := by
  unfold fetchRow at h ⊢
  split at h
  next set hset =>
    refine Wire.remaining_nextRow _ row ?_
    simp only [invoke] at h
    rcases eq : (Wire.nextRow s.wire).1 with failure | r <;> rw [eq] at h <;> cases h
    rfl
  · cases h

instance : Session (WireSession ω) where
  version s := Wire.version s.wire
  spid s := Wire.spid s.wire
  database s := Wire.database s.wire
  rowCount s := Wire.rowCount s.wire
  returnStatus s := Wire.status s.wire
  outputs s := Wire.outputs s.wire
  setTimeout := setTimeout
  submitBatch := submitBatch
  submitCall := submitCall
  nextResult := nextResult
  fetchRow := fetchRow
  bulkCopy := bulkCopy
  close s := s.close.2
  remaining s := Wire.remaining s.wire
  remaining_nextResult := remaining_nextResult
  remaining_fetchRow := remaining_fetchRow
  remaining_fetchRow_le := remaining_fetchRow_le

end WireSession

end TdsClient
