import TdsClient.Proofs.Session.Response

/-!
# Sessions with a ledger

A ledger of a session lists what the server was given to do: the batches,
the calls, and the rows to copy with the number of those that it saved.
What is only read from the session is not entered.

A session complies if it does whatever it is asked for. No use of it fails
or reports an error, and if warnings are raised then none brings one. What
its uses have to keep for that is not fixed here. For scripted sessions it
is a script of which no item fails.

## Main definitions

* `LedgerEntry` — what the server was given to do.
* `Ledger` — a session and its ledger.
* `Complies` — sessions that do what they are asked for.
* `ScriptedSession.IsCalm` — a script of which no item fails.

## Main results

* `Complies.ledger` — with a ledger a session complies as it does without.
* `ScriptedSession.complies_isCalm` — a calm script complies.
-/

namespace TdsClient

variable {σ α : Type}

/-- What the server was given to do. Of rows it is known how many it saved, unless that failed. -/
inductive LedgerEntry
  | batch (sql : String)
  | call (procedure : String) (parameters : List BoundParameter)
  | copied (columns : List Column) (declarations : List String) (rows : List (List Value))
      (saved : Option Int)

/-- A session and what it was given to do, the earliest entry first. -/
structure Ledger (σ : Type) where
  session : σ
  entries : List LedgerEntry := []

namespace Ledger

/-- A use that is entered. -/
def enter (entry : Except SessionFailure α → LedgerEntry) (work : σ → Delivery α × σ)
    (l : Ledger σ) : Delivery α × Ledger σ :=
  let (delivery, session) := work l.session
  (delivery, ⟨session, l.entries ++ [entry delivery.result]⟩)

/-- A use that is not entered. -/
def read (work : σ → Delivery α × σ) (l : Ledger σ) : Delivery α × Ledger σ :=
  let (delivery, session) := work l.session
  (delivery, { l with session })

instance [Session σ] : Session (Ledger σ) where
  version l := Session.version l.session
  spid l := Session.spid l.session
  database l := Session.database l.session
  rowCount l := Session.rowCount l.session
  returnStatus l := Session.returnStatus l.session
  outputs l := Session.outputs l.session
  setTimeout seconds l := { l with session := Session.setTimeout seconds l.session }
  submitBatch sql := enter (fun _ => .batch sql) (Session.submitBatch sql)
  submitCall procedure parameters :=
    enter (fun _ => .call procedure parameters) (Session.submitCall procedure parameters)
  nextResult := read Session.nextResult
  fetchRow := read Session.fetchRow
  bulkCopy columns declarations rows :=
    enter (fun saved => .copied columns declarations rows saved.toOption)
      (Session.bulkCopy columns declarations rows)
  close l := { l with session := Session.close l.session }
  remaining l := Session.remaining l.session
  remaining_nextResult l := Session.remaining_nextResult l.session
  remaining_fetchRow l := Session.remaining_fetchRow l.session
  remaining_fetchRow_le l := Session.remaining_fetchRow_le l.session

/-- Rows that were copied are entered with the number of those that were saved. -/
theorem entries_bulkCopy [Session σ] {columns : List Column} {declarations : List String}
    {rows : List (List Value)} {l : Ledger σ} {saved : Int}
    (h : (Session.bulkCopy columns declarations rows l).1.result = .ok saved) :
    (Session.bulkCopy columns declarations rows l).2.entries =
      l.entries ++ [.copied columns declarations rows (some saved)] := by
  have hresult : (Session.bulkCopy columns declarations rows l.session).1.result = .ok saved := h
  show l.entries ++ [.copied columns declarations rows
    (Session.bulkCopy columns declarations rows l.session).1.result.toOption] = _
  rw [hresult]
  rfl

end Ledger

/-! ## Sessions that comply -/

/-- Sessions of a version that do what they are asked for, and go on to do so. -/
structure Complies [Session σ] (escalates : Bool) (version : Version) (P : σ → Prop) : Prop where
  version : ∀ {s}, P s → Session.version s = version
  batch : ∀ {s} (sql : String), P s →
    Answers escalates (Session.submitBatch sql s).1 () ∧ P (Session.submitBatch sql s).2
  result : ∀ {s}, P s →
    (∃ columns, Answers escalates (Session.nextResult s).1 columns) ∧ P (Session.nextResult s).2
  row : ∀ {s}, P s →
    (∃ row, Answers escalates (Session.fetchRow s).1 row) ∧ P (Session.fetchRow s).2
  copy : ∀ {s} (columns : List Column) (declarations : List String) (rows : List (List Value)), P s →
    (∃ saved, Answers escalates (Session.bulkCopy columns declarations rows s).1 saved) ∧
      P (Session.bulkCopy columns declarations rows s).2

/-- A ledger does not keep a session from what it is asked for. -/
theorem Complies.ledger [Session σ] {escalates : Bool} {version : Version} {P : σ → Prop}
    (h : Complies escalates version P) :
    Complies escalates version fun l : Ledger σ => P l.session where
  version hl := h.version hl
  batch sql hl := h.batch sql hl
  result hl := h.result hl
  row hl := h.row hl
  copy columns declarations rows hl := h.copy columns declarations rows hl

/-! ## Scripted sessions -/

/-- A response that can be read to its end. -/
def Response.IsCalm (escalates : Bool) (r : Response) : Prop :=
  r.playback.IsCalm escalates ∧ ∀ result ∈ r.results, result.IsCalm escalates

theorem Playback.isCalm_default (escalates : Bool) : ({} : Playback).IsCalm escalates where
  succeeds := rfl
  informs := nofun
  calm := .inr rfl

namespace ScriptedSession

/-- A script of which no item fails, neither of the current response nor of others. -/
structure IsCalm (escalates : Bool) (version : Version) (s : ScriptedSession) : Prop where
  version : s.version = version
  responses : ∀ entry ∈ s.responses, entry.2.IsCalm escalates
  pending : ∀ result ∈ s.pending, result.IsCalm escalates
  rows : ∀ row ∈ s.rows, row.playback.IsCalm escalates
  bulk : ∀ p ∈ s.bulk, p.IsCalm escalates

variable {escalates : Bool} {version : Version} {s : ScriptedSession}

/-- Every text has a calm response. -/
theorem IsCalm.responseFor (h : s.IsCalm escalates version) (text : Option String) :
    (s.responseFor text).IsCalm escalates := by
  unfold ScriptedSession.responseFor
  cases hlookup : text.bind fun t => s.responses.lookup t with
  | none => exact ⟨Playback.isCalm_default escalates, nofun⟩
  | some response =>
      obtain ⟨t, _, hresponse⟩ := Option.bind_eq_some_iff.1 hlookup
      obtain ⟨before, after, hsplit, _⟩ := List.lookup_eq_some_iff.1 hresponse
      refine h.responses (t, response) ?_
      rw [hsplit]
      exact List.mem_append_right _ List.mem_cons_self

theorem IsCalm.submit (h : s.IsCalm escalates version) (text : Option String) :
    Answers escalates (s.submit text).1 () ∧ (s.submit text).2.IsCalm escalates version := by
  obtain ⟨hplayback, hresults⟩ := h.responseFor text
  refine ⟨answers_play hplayback (), ⟨h.version, h.responses, ?_, nofun, h.bulk⟩⟩
  show ∀ result ∈ pendingAfter (s.responseFor text).playback (s.responseFor text).results, _
  rw [pendingAfter_of_isCalm hplayback]
  exact hresults

theorem IsCalm.nextResult (h : s.IsCalm escalates version) :
    (∃ columns, Answers escalates s.nextResult.1 columns) ∧
      s.nextResult.2.IsCalm escalates version := by
  unfold ScriptedSession.nextResult
  cases hpending : s.pending with
  | nil => exact ⟨⟨_, answers_silent none⟩, ⟨h.version, h.responses, nofun, nofun, h.bulk⟩⟩
  | cons result rest =>
      have hcalm : ∀ r ∈ result :: rest, r.IsCalm escalates := hpending ▸ h.pending
      obtain ⟨⟨hplayback, hrows⟩, hrest⟩ := List.forall_mem_cons.1 hcalm
      dsimp only
      rw [hplayback.succeeds, pendingAfter_of_isCalm hplayback]
      cases result.columns with
      | none => exact ⟨⟨_, answers_play hplayback _⟩, ⟨h.version, h.responses, hrest, nofun, h.bulk⟩⟩
      | some columns =>
          exact ⟨⟨_, answers_play hplayback _⟩, ⟨h.version, h.responses, hrest, hrows, h.bulk⟩⟩

theorem IsCalm.fetchRow (h : s.IsCalm escalates version) :
    (∃ row, Answers escalates s.fetchRow.1 row) ∧ s.fetchRow.2.IsCalm escalates version := by
  unfold ScriptedSession.fetchRow
  cases s.current with
  | none => exact ⟨⟨_, answers_silent none⟩, h⟩
  | some result =>
      cases hrows : s.rows with
      | nil => exact ⟨⟨_, answers_silent none⟩, ⟨h.version, h.responses, h.pending, nofun, h.bulk⟩⟩
      | cons row rest =>
          have hcalm : ∀ r ∈ row :: rest, r.playback.IsCalm escalates := hrows ▸ h.rows
          obtain ⟨hrow, hrest⟩ := List.forall_mem_cons.1 hcalm
          refine ⟨⟨_, answers_play hrow _⟩, ⟨h.version, h.responses, ?_, hrest, h.bulk⟩⟩
          show ∀ result ∈ pendingAfter row.playback s.pending, _
          rw [pendingAfter_of_isCalm hrow]
          exact h.pending

theorem IsCalm.bulkCopy (h : s.IsCalm escalates version) (rows : List (List Value)) :
    (∃ saved, Answers escalates (s.bulkCopy rows).1 saved) ∧
      (s.bulkCopy rows).2.IsCalm escalates version := by
  unfold ScriptedSession.bulkCopy
  cases hbulk : s.bulk with
  | nil => exact ⟨⟨_, answers_silent _⟩, ⟨h.version, h.responses, h.pending, h.rows, nofun⟩⟩
  | cons p rest =>
      have hcalm : ∀ q ∈ p :: rest, q.IsCalm escalates := hbulk ▸ h.bulk
      obtain ⟨hp, hrest⟩ := List.forall_mem_cons.1 hcalm
      refine ⟨⟨_, answers_play hp _⟩, ⟨h.version, h.responses, ?_, h.rows, hrest⟩⟩
      show ∀ result ∈ pendingAfter p s.pending, _
      rw [pendingAfter_of_isCalm hp]
      exact h.pending

/-- A session whose script is calm does what it is asked for. -/
theorem complies_isCalm (escalates : Bool) (version : Version) :
    Complies escalates version (IsCalm escalates version) where
  version hs := hs.version
  batch sql hs := hs.submit (some sql)
  result hs := hs.nextResult
  row hs := hs.fetchRow
  copy _ _ rows hs := hs.bulkCopy rows

end ScriptedSession

end TdsClient
