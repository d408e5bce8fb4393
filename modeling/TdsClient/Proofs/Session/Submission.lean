import Mathlib.Algebra.Ring.Int.Defs
import TdsClient.Proofs.Footprint

/-!
# Requests submitted one after the other

A session takes one request at a time. Its response has been read to its end
when no result is left, and of each result with columns no row. If several
requests are submitted and each response is read to its end before the next
request, the record of the session has exactly these requests, in order.

## Main definitions

* `ReadOut` — a response is read to its end.
* `AnswersAll` — requests with their responses, one after the other.
* `Recorded.submissions` — the requests in the record of a session.

## Main results

* `AnswersAll.submissions` — what is recorded of requests and their responses.
-/

namespace TdsClient

open Connection

variable {σ : Type} [Session σ]

/-! ## Responses -/

/-- The rows of the current result are read until there is none. -/
inductive RowsRead : σ → σ → Prop
  | last {s : σ} (hrow : (Session.fetchRow s).1.result = .ok none) :
      RowsRead s (Session.fetchRow s).2
  | row {s t : σ} {values : List Value} (hrow : (Session.fetchRow s).1.result = .ok (some values))
      (hrest : RowsRead (Session.fetchRow s).2 t) : RowsRead s t

/-- A response is read to its end: its results are reached one after the other until there is none,
and the rows of those with columns are read. -/
inductive ReadOut : σ → σ → Prop
  | last {s : σ} (hresult : (Session.nextResult s).1.result = .ok none) :
      ReadOut s (Session.nextResult s).2
  | count {s t : σ} (hresult : (Session.nextResult s).1.result = .ok (some []))
      (hrest : ReadOut (Session.nextResult s).2 t) : ReadOut s t
  | set {s t u : σ} {columns : List Column} (hcolumns : columns ≠ [])
      (hresult : (Session.nextResult s).1.result = .ok (some columns))
      (hrows : RowsRead (Session.nextResult s).2 t) (hrest : ReadOut t u) : ReadOut s u

/-- Requests are accepted one after the other, the response to each is read to its end before the
next one is submitted, and at its end the session has a row count. -/
inductive AnswersAll : List Request → σ → List Int → σ → Prop
  | nil {s : σ} : AnswersAll [] s [] s
  | cons {r : Request} {rest : List Request} {s t u : σ} {counts : List Int}
      (hsubmit : (ask r s).1.result = .ok ()) (hread : ReadOut (ask r s).2 t)
      (hrest : AnswersAll rest t counts u) :
      AnswersAll (r :: rest) s (Session.rowCount t :: counts) u

/-- A session is only used to read. -/
def OnlyReads (s t : σ) : Prop :=
  ∃ calls : List SessionCall, (∀ call ∈ calls, call.isRead = true) ∧
    t = calls.foldl SessionCall.turn s

theorem OnlyReads.refl (s : σ) : OnlyReads s s := ⟨[], nofun, rfl⟩

/-- A use that reads, before others. -/
theorem OnlyReads.head {s t : σ} (call : SessionCall) (hcall : call.isRead = true)
    (h : OnlyReads (call.turn s) t) : OnlyReads s t := by
  obtain ⟨calls, hcalls, rfl⟩ := h
  exact ⟨call :: calls, List.forall_mem_cons.2 ⟨hcall, hcalls⟩, rfl⟩

theorem OnlyReads.trans {s t u : σ} (h : OnlyReads s t) (h' : OnlyReads t u) : OnlyReads s u := by
  obtain ⟨calls, hcalls, rfl⟩ := h
  obtain ⟨calls', hcalls', rfl⟩ := h'
  exact ⟨calls ++ calls', List.forall_mem_append.2 ⟨hcalls, hcalls'⟩, (List.foldl_append ..).symm⟩

theorem RowsRead.onlyReads {s t : σ} (h : RowsRead s t) : OnlyReads s t := by
  induction h with
  | last => exact .head .fetchRow rfl (.refl _)
  | row _ _ ih => exact .head .fetchRow rfl ih

theorem ReadOut.onlyReads {s t : σ} (h : ReadOut s t) : OnlyReads s t := by
  induction h with
  | last => exact .head .nextResult rfl (.refl _)
  | count _ _ ih => exact .head .nextResult rfl ih
  | set _ _ hrows _ ih => exact .head .nextResult rfl (hrows.onlyReads.trans ih)

/-! ## Records -/

/-- Whether a use submits a request. -/
def SessionCall.isSubmission : SessionCall → Bool
  | .batch _ | .call .. => true
  | _ => false

/-- The requests that were submitted, the earliest first. -/
def Recorded.submissions (r : Recorded σ) : List SessionCall :=
  r.calls.filter SessionCall.isSubmission

omit [Session σ] in
theorem Request.isSubmission_use (r : Request) : r.use.isSubmission = true := by
  unfold Request.use
  cases r.procedure <;> rfl

/-- A use is recorded. -/
theorem Recorded.calls_turn (call : SessionCall) (r : Recorded σ) :
    (call.turn r).calls = r.calls ++ [call] := by
  obtain ⟨u, hu, rfl⟩ := logs_uses.turn r call
  unfold Recorded.calls
  rw [hu, List.map_append]
  rfl

/-- A request is recorded. -/
theorem Recorded.submissions_ask (request : Request) (r : Recorded σ) :
    (ask request r).2.submissions = r.submissions ++ [request.use] := by
  unfold Recorded.submissions
  rw [← turn_use, Recorded.calls_turn, List.filter_append]
  exact congrArg _ (List.filter_eq_self.2 (List.forall_mem_singleton.2 request.isSubmission_use))

/-- Reading submits nothing. -/
theorem OnlyReads.submissions {r t : Recorded σ} (h : OnlyReads r t) :
    t.submissions = r.submissions := by
  obtain ⟨calls, hcalls, rfl⟩ := h
  induction calls generalizing r with
  | nil => rfl
  | cons call rest ih =>
      obtain ⟨hcall, hrest⟩ := List.forall_mem_cons.1 hcalls
      rw [List.foldl_cons, ih hrest]
      unfold Recorded.submissions
      rw [Recorded.calls_turn, List.filter_append]
      cases call with
      | nextResult => exact List.append_nil _
      | fetchRow => exact List.append_nil _
      | _ => cases hcall

/-- Of requests and their responses exactly the requests are submitted, in order. -/
theorem AnswersAll.submissions {requests : List Request} {r t : Recorded σ} {counts : List Int}
    (h : AnswersAll requests r counts t) :
    t.submissions = r.submissions ++ requests.map Request.use := by
  induction h with
  | nil => exact (List.append_nil _).symm
  | cons _ hread _ ih =>
      rw [ih, hread.onlyReads.submissions, Recorded.submissions_ask, List.append_assoc]
      rfl

/-! ## Row counts -/

/-- The total of row counts, of which negative ones say nothing; with no other ones there is
none. -/
def totalCount (counts : List Int) : Int :=
  if (counts.filter (0 ≤ ·)).isEmpty then -1 else (counts.filter (0 ≤ ·)).sum

end TdsClient
