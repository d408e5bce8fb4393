import Mathlib.Data.List.Induction
import TdsClient.Connection.Statement
import TdsClient.Wire.Adapter
import TdsClient.Wire.Script

/-!
# Reading a response over the wire

The protocol tells where a response is in its own way: it has one operation
for the first result and another one for those behind it, which skips rows
that nobody read; it does not say at the same time that it is idle and that
nothing was found; and it goes on holding a result set behind which there
were only row counts. A session makes results of this one after the other.

Here is what it makes of a script, for any order of result sets and row
counts, and however many rows are read of each. There is one thing that a
session does not hide. Rows that nobody read of an earlier response can be
read until the protocol goes on behind the first result.

## Main definitions

* `WireScript.resultAt`, `WireScript.rowsAt` — what a script says, by the place of a result.
* `WireScript.IsStale` — whether rows of an earlier response can still be read.
* `WireRead` — asking for a result or for a row.
* `WireSession.IsReading` — where a session is after any number of reads.

## Main results

* `takeStep_script` — a step of the protocol is the result at its place.
* `IsReading.row`, `IsReading.result` — what a read gives, and where it leads.
* `reads_script` — so it is for every script and any reads.
-/

namespace TdsClient

/-! ## What a script says -/

/-- A row that can be read. -/
def WireRow.IsSmooth (row : WireRow) : Prop := row.incident.failure = none

/-- A step during which nothing fails, and of which all rows can be read. -/
structure WireStep.IsSmooth (step : WireStep) : Prop where
  succeeds : step.incident.failure = none
  rows : ∀ row ∈ step.rows, row.IsSmooth

instance (row : WireRow) : Decidable row.IsSmooth :=
  inferInstanceAs (Decidable (row.incident.failure = none))

instance (step : WireStep) : Decidable step.IsSmooth :=
  decidable_of_iff (step.incident.failure = none ∧ ∀ row ∈ step.rows, row.IsSmooth)
    ⟨fun h => ⟨h.1, h.2⟩, fun h => ⟨h.succeeds, h.rows⟩⟩

namespace WireScript

/-- Whether there is a result set at a place. -/
def isSetAt (script : List WireStep) (n : Nat) : Bool :=
  match script[n]? with
  | some step => step.columns.isSome
  | none => false

/-- The result at a place: the columns of a result set, no columns for a row count, but nothing for
the row count of the last step, nor behind it. -/
def resultAt (script : List WireStep) (n : Nat) : Option (List Column) :=
  match script[n]? with
  | none => none
  | some step =>
    match step.columns with
    | some columns => some (columns.map WireColumn.toColumn)
    | none => if n + 1 < script.length then some [] else none

/-- The rows of the result set at a place. -/
def rowsAt (script : List WireStep) (n : Nat) : List WireRow :=
  match script[n]? with
  | some step => if step.columns.isSome then step.rows else []
  | none => []

/-- The rows to be read once so many results were asked for. -/
def currentRows (script : List WireStep) : Nat → List WireRow
  | 0 => []
  | n + 1 => rowsAt script n

/-- Whether nothing was found when a result was asked for last. -/
def IsOver (script : List WireStep) : Nat → Prop
  | 0 => False
  | n + 1 => resultAt script n = none

/-- Whether rows of an earlier response can still be read once so many results were asked for:
before that, and behind a first result that is no result set if the response ended there or nothing
else was asked for. -/
def IsStale (script : List WireStep) (n : Nat) : Prop :=
  n = 0 ∨ isSetAt script 0 = false ∧ (n = 1 ∨ script.length ≤ 1)

instance (script : List WireStep) (n : Nat) : Decidable (IsStale script n) :=
  inferInstanceAs (Decidable (_ ∨ _))

/-- The rows of the result set that came in last of which nobody has read. -/
def unread (w : WireScript) : List WireRow := if w.resultSet.isSome then w.rows else []

variable {script : List WireStep} {n : Nat}

/-- What there is at the place of a result set. -/
theorem at_set {step : WireStep} {columns : List WireColumn} (hstep : script[n]? = some step)
    (hcolumns : step.columns = some columns) :
    resultAt script n = some (columns.map WireColumn.toColumn) ∧ isSetAt script n = true ∧
      rowsAt script n = step.rows := by
  unfold resultAt isSetAt rowsAt
  rw [hstep]
  dsimp only
  rw [hcolumns]
  exact ⟨rfl, rfl, rfl⟩

/-- What there is at the place of a row count. -/
theorem at_count {step : WireStep} (hstep : script[n]? = some step)
    (hcolumns : step.columns = none) :
    resultAt script n = (if n + 1 < script.length then some [] else none) ∧
      isSetAt script n = false := by
  unfold resultAt isSetAt
  rw [hstep]
  dsimp only
  rw [hcolumns]
  exact ⟨rfl, rfl⟩

/-- Behind the last step there is nothing. -/
theorem at_end (hn : script.length ≤ n) :
    resultAt script n = none ∧ isSetAt script n = false := by
  unfold resultAt isSetAt
  rw [List.getElem?_eq_none hn]
  exact ⟨rfl, rfl⟩

theorem rowsAt_of_not_isSetAt (hset : isSetAt script n = false) : rowsAt script n = [] := by
  unfold isSetAt at hset
  unfold rowsAt
  cases hstep : script[n]? with
  | none => rfl
  | some step =>
      rw [hstep] at hset
      exact if_neg (by simpa using hset)

/-- If nothing is found this is the last step, and a row count, or there are no more steps. -/
theorem of_resultAt_eq_none (hnone : resultAt script n = none) :
    isSetAt script n = false ∧ script.length ≤ n + 1 := by
  cases hstep : script[n]? with
  | none =>
      have hn := List.getElem?_eq_none_iff.1 hstep
      exact ⟨(at_end hn).2, Nat.le_succ_of_le hn⟩
  | some step =>
      cases hcolumns : step.columns with
      | some columns =>
          rw [(at_set hstep hcolumns).1] at hnone
          cases hnone
      | none =>
          obtain ⟨hresult, hset⟩ := at_count hstep hcolumns
          refine ⟨hset, Nat.le_of_not_lt fun hmore => ?_⟩
          rw [hresult, if_pos hmore] at hnone
          cases hnone

/-- A first result that is no result set, and the only one, is not reported. -/
theorem resultAt_eq_none_of_short (hfirst : isSetAt script 0 = false)
    (hshort : script.length ≤ 1) : resultAt script n = none := by
  cases hstep : script[n]? with
  | none => exact (at_end (List.getElem?_eq_none_iff.1 hstep)).1
  | some step =>
      have hn := (List.getElem?_eq_some_iff.1 hstep).1
      obtain rfl : n = 0 := by omega
      cases hcolumns : step.columns with
      | some columns =>
          rw [(at_set hstep hcolumns).2.1] at hfirst
          cases hfirst
      | none =>
          rw [(at_count hstep hcolumns).1]
          exact if_neg (by omega)

/-- What is stale at the end of a response is so for good. -/
theorem isStale_succ_of_isOver (hover : IsOver script n) :
    IsStale script (n + 1) ↔ IsStale script n := by
  cases n with
  | zero => exact hover.elim
  | succ n =>
      obtain ⟨_, hlength⟩ := of_resultAt_eq_none hover
      unfold IsStale
      constructor
      · rintro (hzero | ⟨hfirst, hone | hshort⟩)
        · omega
        · omega
        · exact .inr ⟨hfirst, .inr hshort⟩
      · rintro (hzero | ⟨hfirst, hone | hshort⟩)
        · omega
        · exact .inr ⟨hfirst, .inr (by omega)⟩
        · exact .inr ⟨hfirst, .inr hshort⟩

/-- Nothing is stale once the protocol has gone on behind the first result. -/
theorem not_isStale_of_not_isOver (hover : ¬IsOver script (n + 1)) : ¬IsStale script (n + 2) := by
  rintro (hzero | ⟨hfirst, hone | hshort⟩)
  · omega
  · omega
  · exact hover (resultAt_eq_none_of_short hfirst hshort)

/-! ## A step of the protocol -/

open WireSession (reported)

/-- With the result set from before, only what was found is reported. -/
theorem reported_self (set : Option WireResult) (found : Option Bool) :
    reported set set found = if found = some true then some [] else none := by
  unfold reported
  rw [WireResult.arrived?_self]

/-- A result set that comes in is another one than that before. -/
theorem reported_hold (w : WireScript) (columns : List WireColumn) (rows : List WireRow)
    (found : Option Bool) :
    reported w.resultSet (w.hold columns rows).resultSet found =
      some (columns.map WireColumn.toColumn) := by
  have harrived : WireResult.arrived? w.resultSet (w.hold columns rows).resultSet =
      (w.hold columns rows).resultSet := by
    unfold WireResult.arrived? hold
    cases w.resultSet with
    | none => simp
    | some set => simp
  unfold reported
  rw [harrived]
  rfl

/-- What was found of a later result tells as much as what was found of the first one. -/
theorem reported_laterFlag (previous current : Option WireResult) (found : Bool) :
    reported previous current (laterFlag found) = reported previous current (some found) := by
  cases found with
  | true => rfl
  | false =>
      unfold reported
      cases WireResult.arrived? previous current with
      | some set => rfl
      | none => rfl

/-- What a step of a script does to a protocol that is not idle. -/
structure TakesStep (script : List WireStep) (n : Nat) (w : WireScript) (found : Bool)
    (w' : WireScript) : Prop where
  result : reported w.resultSet w'.resultSet (some found) = resultAt script n
  steps : w'.steps = script.drop (n + 1)
  idle : w'.isIdle = true ↔ resultAt script n = none
  unread : w'.unread = if isSetAt script n then rowsAt script n else w.unread
  smooth : ∀ row ∈ w'.rows, row.IsSmooth

/-- The step that comes next is the one at its place, and the others are those behind it. -/
theorem of_drop_eq_cons {step : WireStep} {rest : List WireStep}
    (hdrop : script.drop n = step :: rest) :
    script[n]? = some step ∧ rest = script.drop (n + 1) := by
  refine ⟨?_, ?_⟩
  · rw [← List.head?_drop, hdrop, List.head?_cons]
  · rw [← List.tail_drop, hdrop, List.tail_cons]

/-- A step of the protocol brings the result at its place. -/
theorem takeStep_script (hscript : ∀ step ∈ script, step.IsSmooth) {w : WireScript}
    (hsteps : w.steps = script.drop n) (hbusy : w.isIdle = false)
    (hrows : ∀ row ∈ w.rows, row.IsSmooth) :
    ∃ found w', w.takeStep = (.ok found, w') ∧ TakesStep script n w found w' := by
  unfold takeStep
  rw [hsteps]
  cases hdrop : script.drop n with
  | nil =>
      have hlength : script.length ≤ n := List.drop_eq_nil_iff.1 hdrop
      obtain ⟨hresult, hset⟩ := at_end hlength
      refine ⟨_, _, rfl, ?_, ?_, ?_, ?_, hrows⟩
      · rw [hresult]
        exact reported_self _ _
      · exact (List.drop_eq_nil_iff.2 (Nat.le_succ_of_le hlength)).symm
      · exact iff_of_true rfl hresult
      · rw [hset]
        rfl
  | cons step rest =>
      obtain ⟨hstep, hrest⟩ := of_drop_eq_cons hdrop
      have hsmooth := hscript step (List.mem_of_getElem? hstep)
      dsimp only
      rw [hsmooth.succeeds]
      cases hcolumns : step.columns with
      | some columns =>
          obtain ⟨hresult, hset, hcurrent⟩ := at_set hstep hcolumns
          refine ⟨_, _, rfl, ?_, hrest, ?_, ?_, hsmooth.rows⟩
          · rw [hresult]
            exact reported_hold _ columns step.rows _
          · rw [hresult]
            exact iff_of_false (by simp [hold, hbusy]) (by simp)
          · rw [if_pos hset, hcurrent]
            rfl
      | none =>
          obtain ⟨hresult, hset⟩ := at_count hstep hcolumns
          have hlast : rest.isEmpty = true ↔ script.length ≤ n + 1 := by
            rw [hrest, List.isEmpty_iff, List.drop_eq_nil_iff]
          dsimp only
          by_cases hmore : n + 1 < script.length
          · rw [if_pos hmore] at hresult
            rw [if_neg fun hempty => Nat.not_lt.2 (hlast.1 hempty) hmore]
            refine ⟨_, _, rfl, ?_, hrest, ?_, ?_, hrows⟩
            · rw [hresult]
              exact reported_self _ _
            · rw [hresult]
              exact iff_of_false (by simp [hbusy]) (by simp)
            · rw [hset]
              rfl
          · rw [if_neg hmore] at hresult
            rw [if_pos (hlast.2 (Nat.le_of_not_lt hmore))]
            refine ⟨_, _, rfl, ?_, hrest, ?_, ?_, hrows⟩
            · rw [hresult]
              exact reported_self _ _
            · exact iff_of_true rfl hresult
            · rw [hset]
              rfl

/-- Rows that can be read are skipped. -/
theorem skipRows_smooth {rows : List WireRow} (hrows : ∀ row ∈ rows, row.IsSmooth)
    (w : WireScript) :
    ∃ messages, w.skipRows rows = (.ok (), { w with messages, rows := [] }) := by
  induction rows generalizing w with
  | nil => exact ⟨w.messages, rfl⟩
  | cons row rest ih =>
      have hsucceeds : row.incident.failure = none := hrows row List.mem_cons_self
      unfold skipRows
      dsimp only
      rw [hsucceeds]
      exact ih (fun row hrow => hrows row (List.mem_cons_of_mem _ hrow)) (w.receive row.incident)

end WireScript

/-! ## Reading -/

/-- A use of a session to read a response: to ask for the next result, or for the next row. -/
inductive WireRead
  | result
  | row
deriving DecidableEq

open WireScript

/-- How many rows were asked for since a result was. -/
def WireRead.rowsSince (reads : List WireRead) : Nat :=
  (reads.reverse.takeWhile (· = .row)).length

namespace WireSession

/-- A session after a read. -/
def read {ω : Type} [Wire ω] (s : WireSession ω) : WireRead → WireSession ω
  | .result => s.nextResult.2
  | .row => s.fetchRow.2

/-- A session after any number of reads. -/
def readAll {ω : Type} [Wire ω] (s : WireSession ω) (reads : List WireRead) : WireSession ω :=
  reads.foldl read s

/-- The rows that are left after reads of a script, if there were others before. -/
def unreadAfter (script : List WireStep) (old : List WireRow) (reads : List WireRead) :
    List WireRow :=
  if IsStale script (reads.count .result) then old.drop (reads.count .row)
  else (currentRows script (reads.count .result)).drop (WireRead.rowsSince reads)

/-- Where a session is after reads of a script. -/
structure IsReading (script : List WireStep) (old : List WireRow) (reads : List WireRead)
    (s : WireSession WireScript) : Prop where
  started : s.isStarted = true ↔ 0 < reads.count .result
  steps : s.wire.steps = script.drop (reads.count .result)
  idle : s.wire.isIdle = true ↔ IsOver script (reads.count .result)
  unread : s.wire.unread = unreadAfter script old reads
  smooth : ∀ row ∈ s.wire.rows, row.IsSmooth

variable {script : List WireStep} {old : List WireRow} {reads : List WireRead}
  {s : WireSession WireScript}

/-- However its submission ends, nothing was read of the response to a request. -/
theorem isReading_ask (r : Request) (s : WireSession WireScript)
    (hrows : ∀ row ∈ s.wire.rows, row.IsSmooth) :
    IsReading s.wire.steps s.wire.unread [] (Connection.ask r s).2 := by
  have hsubmitted : ∀ isCall event, IsReading s.wire.steps s.wire.unread []
      ((s.restart isCall).invoke (submit event)).2 := by
    intro isCall event
    have hwire : ∃ messages events, (submit event s.wire).2 =
        { s.wire with messages, events, isIdle := false } := by
      unfold submit andThen undergo
      cases Incident.result s.wire.incidents.submit () with
      | ok => exact ⟨_, _, rfl⟩
      | error failure => exact ⟨_, _, rfl⟩
    obtain ⟨messages, events, hwire⟩ := hwire
    have hafter : ((s.restart isCall).invoke (submit event)).2.wire =
        { s.wire with messages, events, isIdle := false } := hwire
    refine ⟨iff_of_false nofun (Nat.lt_irrefl 0), ?_, ?_, ?_, ?_⟩
    · rw [hafter]
      rfl
    · rw [hafter]
      exact iff_of_false nofun not_false
    · rw [hafter]
      rfl
    · rw [hafter]
      exact hrows
  unfold Connection.ask
  cases r.procedure with
  | some procedure => exact hsubmitted true _
  | none => exact hsubmitted false _

/-- What a row that is asked for is, and what is left then. -/
theorem fetchRow_smooth (hrows : ∀ row ∈ s.wire.rows, row.IsSmooth) :
    s.fetchRow.1.result = .ok (s.wire.unread.head?.map (·.values)) ∧
      ∃ messages rows seen, s.fetchRow.2 =
          { s with wire := { s.wire with messages, rows }, seen } ∧
        WireScript.unread { s.wire with messages, rows } = s.wire.unread.tail ∧
        ∀ row ∈ rows, row.IsSmooth := by
  cases hset : s.wire.resultSet with
  | none =>
      have hunread : s.wire.unread = [] := if_neg (by simp [hset])
      have hnone : Wire.resultSet s.wire = none := hset
      have hfetch : s.fetchRow = (.silent none, s) := by
        rw [fetchRow, hnone]
      rw [hfetch, hunread]
      exact ⟨rfl, s.wire.messages, s.wire.rows, s.seen, rfl, hunread, hrows⟩
  | some set =>
      have hunread : s.wire.unread = s.wire.rows := if_pos (by simp [hset])
      have hheld : ∀ messages rows,
          WireScript.unread { s.wire with messages, rows } = rows := fun _ _ =>
        if_pos (by simp [hset])
      have hsome : Wire.resultSet s.wire = some set := hset
      have hfetch : s.fetchRow = s.invoke WireScript.nextRow := by
        rw [fetchRow, hsome]
        rfl
      rw [hfetch, hunread]
      unfold invoke WireScript.nextRow
      cases hleft : s.wire.rows with
      | nil =>
          exact ⟨rfl, s.wire.messages, s.wire.rows, (Wire.messages s.wire).length, rfl,
            (hheld _ _).trans hleft, hrows⟩
      | cons row rest =>
          rw [hleft] at hrows
          have hsucceeds : row.incident.failure = none := hrows row List.mem_cons_self
          refine ⟨?_, _, rest, _, rfl, hheld _ _,
            fun row hrow => hrows row (List.mem_cons_of_mem _ hrow)⟩
          simp [Incident.result, hsucceeds, Except.mapError]

/-- Asking for a row gives the next of those left. -/
theorem IsReading.row (h : IsReading script old reads s) :
    s.fetchRow.1.result = .ok ((unreadAfter script old reads).head?.map (·.values)) ∧
      IsReading script old (reads ++ [.row]) s.fetchRow.2 := by
  have hcount : (reads ++ [WireRead.row]).count .result = reads.count .result := by simp
  have htail : (unreadAfter script old reads).tail = unreadAfter script old (reads ++ [.row]) := by
    unfold unreadAfter
    rw [hcount]
    split
    · rw [List.tail_drop, List.count_append]
      rfl
    · rw [List.tail_drop]
      unfold WireRead.rowsSince
      rw [List.reverse_append]
      rfl
  obtain ⟨hresult, messages, rows, seen, hafter, hunread, hrows⟩ := fetchRow_smooth h.smooth
  rw [h.unread] at hresult hunread
  rw [hafter]
  refine ⟨hresult, ?_, ?_, ?_, hunread.trans htail, hrows⟩
  · rw [hcount]
    exact h.started
  · rw [hcount]
    exact h.steps
  · rw [hcount]
    exact h.idle

/-- Before the protocol has gone on behind the first result only a result set takes the place of
rows from before; then there are none of those any more. -/
theorem unreadAfter_result (script : List WireStep) (old : List WireRow) (reads : List WireRead) :
    unreadAfter script old (reads ++ [.result]) =
      if IsStale script (reads.count .result + 1) then old.drop (reads.count .row)
      else rowsAt script (reads.count .result) := by
  have hcount : (reads ++ [WireRead.result]).count .result = reads.count .result + 1 := by simp
  have hrows : (reads ++ [WireRead.result]).count .row = reads.count .row := by simp
  have hsince : WireRead.rowsSince (reads ++ [.result]) = 0 := by
    unfold WireRead.rowsSince
    rw [List.reverse_append]
    rfl
  unfold unreadAfter
  rw [hcount, hrows, hsince]
  rfl

/-- What the protocol does when a session asks it for the next result. -/
structure Advances (script : List WireStep) (old : List WireRow) (reads : List WireRead)
    (s : WireSession WireScript) (found : Option Bool) (w : WireScript) : Prop where
  advance : advance s.isStarted s.isCall s.wire = (.ok found, w)
  result : reported s.wire.resultSet w.resultSet found =
    resultAt script (reads.count .result)
  steps : w.steps = script.drop (reads.count .result + 1)
  idle : w.isIdle = true ↔ resultAt script (reads.count .result) = none
  unread : w.unread = unreadAfter script old (reads ++ [.result])
  smooth : ∀ row ∈ w.rows, row.IsSmooth

/-- The first result. -/
theorem IsReading.advance_first (hscript : ∀ step ∈ script, step.IsSmooth)
    (h : IsReading script old reads s) (hnone : reads.count .result = 0) :
    ∃ found w, Advances script old reads s found w := by
  have hfresh : ¬s.isStarted = true := fun hstarted => by
    have hpos := h.started.1 hstarted
    omega
  have hbusy : s.wire.isIdle = false := by
    rw [← Bool.not_eq_true, h.idle, hnone]
    exact not_false
  have hunread : s.wire.unread = old.drop (reads.count .row) := by
    rw [h.unread]
    exact if_pos (.inl hnone)
  obtain ⟨found, w, htake, hstep⟩ := takeStep_script hscript
    (w := s.wire.record (if s.isCall then .firstOfCall else .firstOfBatch)) h.steps hbusy h.smooth
  refine ⟨some found, w, ?_, hstep.result, hstep.steps, hstep.idle, ?_, hstep.smooth⟩
  · show (if s.isStarted = true then _
      else (Except.map some (WireScript.takeStep _).1, (WireScript.takeStep _).2)) = _
    rw [if_neg hfresh, htake]
    rfl
  · have hfirst : w.unread =
        if isSetAt script 0 then rowsAt script 0 else old.drop (reads.count .row) := by
      rw [hstep.unread, hnone, ← hunread]
      rfl
    rw [hfirst, unreadAfter_result, hnone]
    by_cases hset : isSetAt script 0 = true
    · rw [if_pos hset, if_neg]
      rintro (hzero | ⟨hno, _⟩)
      · cases hzero
      · rw [hset] at hno
        cases hno
    · rw [if_neg hset, if_pos (.inr ⟨by simpa using hset, .inl rfl⟩)]

/-- Behind the end of a response. -/
theorem IsReading.advance_over (h : IsReading script old reads s) {n : Nat}
    (hcount : reads.count .result = n + 1) (hover : resultAt script n = none) :
    ∃ found w, Advances script old reads s found w := by
  obtain ⟨hset, hlength⟩ := of_resultAt_eq_none hover
  obtain ⟨hresult, _⟩ := at_end hlength
  have hstarted : s.isStarted = true := h.started.2 (by omega)
  have hidle : s.wire.isIdle = true := by
    rw [h.idle, hcount]
    exact hover
  have hsteps : s.wire.steps = [] := by
    rw [h.steps, hcount]
    exact List.drop_eq_nil_iff.2 hlength
  refine ⟨none, s.wire, ?_, ?_, ?_, ?_, ?_, h.smooth⟩
  · show (if s.isStarted = true then (if s.wire.isIdle = true then _ else _) else _) = _
    rw [if_pos hstarted, if_pos hidle]
  · rw [hcount, hresult]
    exact reported_self _ _
  · rw [hsteps, hcount]
    exact (List.drop_eq_nil_iff.2 (Nat.le_succ_of_le hlength)).symm
  · rw [hcount]
    exact iff_of_true hidle hresult
  · -- what is left is stale, or the result set was read before
    rw [h.unread, unreadAfter_result, hcount]
    unfold unreadAfter
    rw [hcount]
    have hlater := isStale_succ_of_isOver (show IsOver script (n + 1) from hover)
    by_cases hstale : IsStale script (n + 1)
    · rw [if_pos hstale, if_pos (hlater.2 hstale)]
    · rw [if_neg hstale, if_neg fun h => hstale (hlater.1 h)]
      show (rowsAt script n).drop _ = rowsAt script (n + 1)
      rw [rowsAt_of_not_isSetAt hset, rowsAt_of_not_isSetAt (at_end hlength).2, List.drop_nil]

/-- A later result. -/
theorem IsReading.advance_later (hscript : ∀ step ∈ script, step.IsSmooth)
    (h : IsReading script old reads s) {n : Nat} (hcount : reads.count .result = n + 1)
    (hover : resultAt script n ≠ none) : ∃ found w, Advances script old reads s found w := by
  have hstarted : s.isStarted = true := h.started.2 (by omega)
  have hbusy : s.wire.isIdle = false := by
    rw [← Bool.not_eq_true, h.idle, hcount]
    exact hover
  obtain ⟨messages, hskip⟩ := skipRows_smooth h.smooth (s.wire.record .nextResult)
  obtain ⟨found, w, htake, hstep⟩ := takeStep_script hscript
    (w := { s.wire.record .nextResult with messages, rows := [] }) h.steps hbusy nofun
  refine ⟨laterFlag found, w, ?_, ?_, hstep.steps, hstep.idle, ?_, hstep.smooth⟩
  · have hnext : s.wire.nextResult = (.ok (laterFlag found), w) := by
      unfold WireScript.nextResult
      dsimp only
      rw [show (s.wire.record .nextResult).rows = s.wire.rows from rfl, hskip]
      dsimp only
      unfold laterResult
      rw [if_neg (by simp [record, hbusy]), htake]
      rfl
    show (if s.isStarted = true then (if s.wire.isIdle = true then _ else s.wire.nextResult)
      else _) = _
    rw [if_pos hstarted, if_neg (by simp [hbusy]), hnext]
  · rw [reported_laterFlag]
    exact hstep.result
  · have hnothing : WireScript.unread { s.wire.record .nextResult with messages, rows := [] } = [] :=
      ite_self _
    rw [hstep.unread, hnothing, unreadAfter_result, hcount, if_neg (not_isStale_of_not_isOver hover)]
    by_cases hset : isSetAt script (n + 1) = true
    · rw [if_pos hset]
    · rw [if_neg hset, rowsAt_of_not_isSetAt (by simpa using hset)]

/-- Asking for a result gives the one at its place. -/
theorem IsReading.result (hscript : ∀ step ∈ script, step.IsSmooth)
    (h : IsReading script old reads s) :
    s.nextResult.1.result = .ok (resultAt script (reads.count .result)) ∧
      IsReading script old (reads ++ [.result]) s.nextResult.2 := by
  have hadvances : ∃ found w, Advances script old reads s found w := by
    cases hcount : reads.count .result with
    | zero => exact h.advance_first hscript hcount
    | succ n =>
        by_cases hover : resultAt script n = none
        · exact h.advance_over hcount hover
        · exact h.advance_later hscript hcount hover
  obtain ⟨found, w, ha⟩ := hadvances
  have hcount : (reads ++ [WireRead.result]).count .result = reads.count .result + 1 := by simp
  have hnext : ∃ messages seen, s.nextResult =
      (⟨messages, .ok (reported s.wire.resultSet w.resultSet found)⟩,
        { s with wire := w, seen, isStarted := true }) := by
    unfold nextResult invoke
    dsimp only
    rw [ha.advance]
    exact ⟨_, _, rfl⟩
  obtain ⟨messages, seen, hnext⟩ := hnext
  rw [hnext]
  refine ⟨congrArg Except.ok ha.result, iff_of_true rfl ?_, ?_, ?_, ha.unread, ha.smooth⟩
  · rw [hcount]
    exact Nat.succ_pos _
  · rw [hcount]
    exact ha.steps
  · rw [hcount]
    exact ha.idle

/-- So it goes on for any number of reads. -/
theorem IsReading.readAll (hscript : ∀ step ∈ script, step.IsSmooth)
    (h : IsReading script old [] s) (reads : List WireRead) :
    IsReading script old reads (s.readAll reads) := by
  induction reads using List.reverseRecOn with
  | nil => exact h
  | append_singleton reads last ih =>
      unfold WireSession.readAll at ih ⊢
      rw [List.foldl_append]
      cases last with
      | result => exact (ih.result hscript).2
      | row => exact ih.row.2

end WireSession

open WireSession

/-- A request is submitted, as a batch or as a call, over a protocol that plays a script in which
nothing fails, and whatever became of responses before; results and rows are asked for in any
order. Then the next result that is asked for is the one at its place in the script: the columns of
a result set, no columns for a row count, and none for that of the last step and ever after. And the
next row that is asked for is the next one of the result set at the place reached, of which none is
left out, and there is none behind the last one and behind a row count; but as long as rows of an
earlier response are stale those come, in order, in place of none. -/
theorem reads_script {s : WireSession WireScript} (hscript : ∀ step ∈ s.wire.steps, step.IsSmooth)
    (hrows : ∀ row ∈ s.wire.rows, row.IsSmooth) (r : Request) (reads : List WireRead) :
    let later := (Connection.ask r s).2.readAll reads
    (Session.nextResult later).1.result =
        .ok (resultAt s.wire.steps (reads.count .result)) ∧
      (Session.fetchRow later).1.result =
        .ok (if IsStale s.wire.steps (reads.count .result) then
            s.wire.unread[reads.count .row]?.map (·.values)
          else
            (currentRows s.wire.steps (reads.count .result))[WireRead.rowsSince reads]?.map
              (·.values)) := by
  have hreading := (isReading_ask r s hrows).readAll hscript reads
  refine ⟨(hreading.result hscript).1, hreading.row.1.trans (congrArg Except.ok ?_)⟩
  unfold unreadAfter
  split
  · rw [List.head?_drop]
  · rw [List.head?_drop]

/-- A response of two result sets with a row count between them. -/
def interleaved : List WireStep :=
  [{ columns := some [{ name := "a", typeCode := .int }], rows := [⟨[.int 1], {}⟩, ⟨[.int 2], {}⟩] },
    { rowCount := 3 },
    { columns := some [{ name := "b", typeCode := .int }], rows := [⟨[.int 4], {}⟩] }]

/-- Behind the row count, of the first result set one row was read, comes the second result set; and
before that there are no rows though one was left. -/
theorem reads_script_interleaved :
    let later := (Connection.ask ⟨"SELECT a; UPDATE t; SELECT b", none, [], 0⟩
      (WireSession.ofWire { steps := interleaved : WireScript })).2.readAll [.result, .row, .result]
    (Session.nextResult later).1.result =
        .ok (some [WireColumn.toColumn { name := "b", typeCode := .int }]) ∧
      (Session.fetchRow later).1.result = .ok none :=
  reads_script (s := WireSession.ofWire { steps := interleaved : WireScript })
    (show ∀ step ∈ interleaved, step.IsSmooth by decide) nofun _ _

/-- A session that has read one of two rows, and for which other results are then scripted. -/
def halfRead : WireSession WireScript :=
  let reading := (Connection.ask ⟨"SELECT a", none, [], 0⟩
    (WireSession.ofWire { steps := interleaved.take 1 : WireScript })).2.readAll [.result, .row]
  { reading with wire := { reading.wire with steps := [{ rowCount := 3 }, { rowCount := 4 }] } }

/-- Behind the first row count of the next response there is a row, and it is the one left of the
response before. -/
theorem stale_row_behind_count :
    let later := (Connection.ask ⟨"UPDATE t", none, [], 0⟩ halfRead).2
    (Session.nextResult later).1.result = .ok (some []) ∧
      (Session.fetchRow (Session.nextResult later).2).1.result = .ok (some [.int 2]) :=
  ⟨rfl, rfl⟩

end TdsClient
