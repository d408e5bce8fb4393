import TdsClient.Cursor.Basic

/-!
# Reading a response

A cursor goes through the results of a response and stops at each one that
has columns; results that only have a row count are passed over. The rows
of a result set are converted as they are read. When there is no further
result, the cursor has the row count and the return value of the response.

## Main definitions

* `Cursor.advance` — going on to the next result set.
* `Cursor.readRow`, `Cursor.readRows`, `Cursor.discardRows` — its rows.
* `Cursor.discardResults` — going to the end of the response.
-/

namespace TdsClient.Cursor

open Connection

variable {σ : Type} [Session σ]

/-! ## Results -/

/-- Takes over the row count of the session. -/
def takeRowCount (k : Cursor) : Op σ Unit := do
  let rowCount := Session.rowCount (← get).session
  k.change fun r => { r with rowCount }

/-- Ends the response. -/
def finish (k : Cursor) : Op σ Unit := do
  let session := (← get).session
  k.change (·.finish (Session.rowCount session) (Session.returnStatus session))

/-- Starts reading a result set. -/
def reachColumns (k : Cursor) (columns : List Column) : Op σ Unit := do
  let version := Session.version (← get).session
  let columns ← Op.ofExcept (columns.mapM (Column.normalize version))
  k.change (·.reach columns)

/-- Goes on to the next result, and says whether it has columns. -/
def advanceStep (k : Cursor) (_ : Bool) : Op σ (ForInStep Bool) := do
  match ← call Session.nextResult with
  | none =>
    k.finish
    return .done false
  | some columns =>
    k.takeRowCount
    if columns.isEmpty then return .yield false
    else
      k.reachColumns columns
      return .done true

omit [Session σ] in
theorem session_change {k : Cursor} {f : CursorRecord → CursorRecord} {u : Unit}
    {c c' : Connection σ} (h : k.change f c = .ok u c') : c'.session = c.session := by
  cases h
  rfl

theorem session_takeRowCount {k : Cursor} {u : Unit} {c c' : Connection σ}
    (h : k.takeRowCount c = .ok u c') : c'.session = c.session := by
  cases h
  rfl

omit [Session σ] in
theorem session_ofExcept {α : Type} {x : Except Error α} {a : α} {c c' : Connection σ}
    (h : Op.ofExcept x c = .ok a c') : c'.session = c.session := by
  cases x <;> cases h
  rfl

theorem session_reachColumns {k : Cursor} {columns : List Column} {u : Unit}
    {c c' : Connection σ} (h : k.reachColumns columns c = .ok u c') :
    c'.session = c.session := by
  obtain ⟨_, _, got, rest⟩ := Op.bind_eq_ok.1 h
  cases got
  obtain ⟨_, _, normalized, changed⟩ := Op.bind_eq_ok.1 rest
  rw [session_change changed, session_ofExcept normalized]

/-- A step that reaches a result, with or without columns, consumes it. -/
theorem advanceStep_lt {k : Cursor} {b : Bool} {r : ForInStep Bool} {c c' : Connection σ}
    (h : k.advanceStep b c = .ok r c') (hr : r ≠ .done false) :
    Session.remaining c'.session < Session.remaining c.session := by
  obtain ⟨columns, d, called, rest⟩ := Op.bind_eq_ok.1 h
  obtain ⟨ok, eq⟩ := call_eq_ok called
  cases columns with
  | none =>
    obtain ⟨_, _, _, ended⟩ := Op.bind_eq_ok.1 rest
    cases ended
    exact absurd rfl hr
  | some columns =>
    have lt := Session.remaining_nextResult _ _ ok
    rw [← eq] at lt
    obtain ⟨_, e, counted, rest⟩ := Op.bind_eq_ok.1 rest
    rw [← session_takeRowCount counted] at lt
    cases columns with
    | nil =>
      cases rest
      exact lt
    | cons column others =>
      obtain ⟨_, _, reached, ended⟩ := Op.bind_eq_ok.1 rest
      cases ended
      rw [session_reachColumns reached]
      exact lt

theorem consumes_advanceStep (k : Cursor) : Op.Consumes (k.advanceStep (σ := σ)) :=
  fun _ _ _ _ h => advanceStep_lt h nofun

/-- Goes on to the next result set, and says whether there is one. -/
def advance (k : Cursor) : Op σ Bool := .loop k.advanceStep (consumes_advanceStep k) false

/-- Reaching a result set consumes something. -/
theorem advance_lt {k : Cursor} {c c' : Connection σ} (h : k.advance c = .ok true c') :
    Session.remaining c'.session < Session.remaining c.session := by
  refine Op.loop_eq_ok_lt (P := fun b => b = true) ?_ h rfl
  rintro _ _ _ _ stepped rfl
  exact advanceStep_lt stepped nofun

/-! ## Rows -/

/-- The values of the next row, converted, if there is one. -/
def readRow (k : Cursor) : Op σ (Option (List Value)) := do
  if (← k.record).state ≠ .hasResults then return none
  match ← call Session.fetchRow with
  | none =>
    k.takeRowCount
    return none
  | some values =>
    match (← k.record).conversions with
    | none => throw .brokenResult
    | some conversions =>
      k.change (·.countRow)
      let values ← Op.ofExcept (Column.convertRow conversions values)
      return some values

/-- Reading a row does not make the response longer, and makes it shorter if there is one. -/
theorem readRow_le {k : Cursor} {row : Option (List Value)} {c c' : Connection σ}
    (h : k.readRow c = .ok row c') :
    Session.remaining c'.session ≤ Session.remaining c.session ∧
      (row.isSome → Session.remaining c'.session < Session.remaining c.session) := by
  obtain ⟨_, _, got, rest⟩ := Op.bind_eq_ok.1 h
  cases got
  split at rest
  · cases rest
    exact ⟨Nat.le_refl _, nofun⟩
  obtain ⟨values, d, called, rest⟩ := Op.bind_eq_ok.1 rest
  obtain ⟨ok, eq⟩ := call_eq_ok called
  have le := Session.remaining_fetchRow_le c.session
  rw [← eq] at le
  cases values with
  | none =>
    obtain ⟨_, _, counted, ended⟩ := Op.bind_eq_ok.1 rest
    cases ended
    rw [session_takeRowCount counted]
    exact ⟨le, nofun⟩
  | some values =>
    have lt := Session.remaining_fetchRow _ _ ok
    rw [← eq] at lt
    obtain ⟨_, _, got, rest⟩ := Op.bind_eq_ok.1 rest
    cases got
    rcases known : (k.recordIn d).conversions with _ | conversions
    · simp only [known] at rest
      cases rest
    · simp only [known] at rest
      obtain ⟨_, _, changed, rest⟩ := Op.bind_eq_ok.1 rest
      obtain ⟨_, _, converted, ended⟩ := Op.bind_eq_ok.1 rest
      cases ended
      rw [session_ofExcept converted, session_change changed]
      exact ⟨le, fun _ => lt⟩

/-- Reads a row after others as long as more are wanted, which may depend on how many there
are. -/
def readRowsStep (k : Cursor) (wanted : Nat → Except CompareError Bool)
    (rows : List (List Value)) : Op σ (ForInStep (List (List Value))) := do
  if ← Op.ofExcept ((wanted rows.length).mapError fun cause => .misuse (.comparison cause)) then
    match ← k.readRow with
    | some row => return .yield (rows ++ [row])
    | none => return .done rows
  else return .done rows

theorem readRowsStep_le {k : Cursor} {wanted : Nat → Except CompareError Bool}
    {rows : List (List Value)} {r : ForInStep (List (List Value))} {c c' : Connection σ}
    (h : k.readRowsStep wanted rows c = .ok r c') :
    Session.remaining c'.session ≤ Session.remaining c.session ∧
      (∀ rows', r = .yield rows' →
        Session.remaining c'.session < Session.remaining c.session) := by
  obtain ⟨more, d, asked, rest⟩ := Op.bind_eq_ok.1 h
  rw [← session_ofExcept asked]
  cases more with
  | false =>
    cases rest
    exact ⟨Nat.le_refl _, nofun⟩
  | true =>
    obtain ⟨row, e, read, ended⟩ := Op.bind_eq_ok.1 rest
    obtain ⟨le, lt⟩ := readRow_le read
    cases row <;> cases ended
    · exact ⟨le, nofun⟩
    · exact ⟨le, fun _ _ => lt rfl⟩

theorem consumes_readRowsStep (k : Cursor) (wanted : Nat → Except CompareError Bool) :
    Op.Consumes (k.readRowsStep (σ := σ) wanted) :=
  fun _ _ _ _ h => (readRowsStep_le h).2 _ rfl

/-- Reads rows as long as more are wanted and there are more. -/
def readRows (k : Cursor) (wanted : Nat → Except CompareError Bool) :
    Op σ (List (List Value)) :=
  .loop (k.readRowsStep wanted) (consumes_readRowsStep k wanted) []

/-- Reads the rest of the result set and drops it. -/
def discardRows (k : Cursor) : Op σ Unit := do
  let _ ← k.readRows fun _ => .ok true

theorem discardRows_le {k : Cursor} {u : Unit} {c c' : Connection σ}
    (h : k.discardRows c = .ok u c') :
    Session.remaining c'.session ≤ Session.remaining c.session := by
  obtain ⟨_, _, read, ended⟩ := Op.bind_eq_ok.1 h
  cases ended
  exact Op.loop_eq_ok_le (fun _ _ _ _ stepped => (readRowsStep_le stepped).1) read

/-! ## Whole responses -/

/-- Reads a result set and drops it. -/
def discardResultsStep (k : Cursor) (_ : Unit) : Op σ (ForInStep Unit) := do
  if ← k.advance then
    k.discardRows
    return .yield ()
  else return .done ()

theorem consumes_discardResultsStep (k : Cursor) :
    Op.Consumes (k.discardResultsStep (σ := σ)) := by
  intro _ c _ c' h
  obtain ⟨more, d, advanced, rest⟩ := Op.bind_eq_ok.1 h
  cases more with
  | false => cases rest
  | true =>
    obtain ⟨_, _, discarded, ended⟩ := Op.bind_eq_ok.1 rest
    cases ended
    exact Nat.lt_of_le_of_lt (discardRows_le discarded) (advance_lt advanced)

/-- Reads the response to its end and drops its rows. -/
def discardResults (k : Cursor) : Op σ Unit :=
  .loop k.discardResultsStep (consumes_discardResultsStep k) ()

end TdsClient.Cursor
