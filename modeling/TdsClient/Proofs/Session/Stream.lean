import TdsClient.Proofs.Session.Response

/-!
# Sessions that stream rows with messages

The rows of a result set come one at a time, and any of them may come with
messages that only inform. A session streams rows if its uses give them in
order, each with its messages, and find no more rows in the end.

What a session has still to give is said by a relation, which is not fixed
here: any relation will do whose uses keep it. For scripted sessions there
is one.

## Main definitions

* `StreamedRow` — a row and what is said beside it.
* `Streams` — a relation between sessions and the rows they have still to give.
* `ScriptedSession.IsStreaming` — the rows a scripted session has still to give.

## Main results

* `ScriptedSession.streams_isStreaming` — scripted sessions stream their rows.
-/

namespace TdsClient

variable {σ : Type}

/-- A row as the session gives it, and the messages that come with it. -/
structure StreamedRow where
  values : List Value
  messages : List Message

/-- Sessions of which it is known which rows of the current result set they have still to give. At
its end they say nothing that matters. -/
structure Streams [Session σ] (escalates : Bool) (Holds : σ → List StreamedRow → Prop) : Prop where
  row : ∀ {s row rows}, Holds s (row :: rows) →
    (Session.fetchRow s).1 = ⟨row.messages, .ok (some row.values)⟩ ∧
      Holds (Session.fetchRow s).2 rows
  noRow : ∀ {s}, Holds s [] →
    Answers escalates (Session.fetchRow s).1 none ∧ Holds (Session.fetchRow s).2 []

namespace ScriptedSession

/-- The rows that a scripted session has still to give, none of which fails. -/
structure IsStreaming (s : ScriptedSession) (rows : List StreamedRow) : Prop where
  current : s.current.isSome = true
  rows : s.rows.map (fun row => ⟨row.values, row.playback.messages⟩) = rows
  succeeds : ∀ row ∈ s.rows, row.playback.failure = none

/-- The next row comes with its messages. -/
theorem IsStreaming.fetchRow_of_row {s : ScriptedSession} {row : StreamedRow}
    {rows : List StreamedRow} (h : s.IsStreaming (row :: rows)) :
    s.fetchRow.1 = ⟨row.messages, .ok (some row.values)⟩ ∧ s.fetchRow.2.IsStreaming rows := by
  obtain ⟨result, hcurrent⟩ := Option.isSome_iff_exists.1 h.current
  obtain ⟨first, rest, hrows, rfl, hrest⟩ := List.map_eq_cons_iff.1 h.rows
  have hfirst : first.playback.failure = none := h.succeeds first (by simp [hrows])
  have hfetch : s.fetchRow = (play first.playback (some first.values),
      { s with rows := rest, pending := pendingAfter first.playback s.pending }) := by
    unfold fetchRow
    rw [hcurrent, hrows]
  rw [hfetch]
  constructor
  · simp [play, hfirst]
  · refine ⟨h.current, hrest, ?_⟩
    intro later hlater
    exact h.succeeds later (by simp [hrows, hlater])

/-- At the end no row comes any more. -/
theorem IsStreaming.fetchRow_of_noRow {s : ScriptedSession} (h : s.IsStreaming []) :
    s.fetchRow.1 = .silent none ∧ s.fetchRow.2.IsStreaming [] := by
  obtain ⟨result, hcurrent⟩ := Option.isSome_iff_exists.1 h.current
  have hrows : s.rows = [] := List.map_eq_nil_iff.1 h.rows
  have hfetch : s.fetchRow = (.silent none, { s with rowCount := finalCount result }) := by
    unfold fetchRow
    rw [hcurrent, hrows]
  rw [hfetch]
  exact ⟨rfl, h.current, h.rows, h.succeeds⟩

/-- A scripted session streams its rows. -/
theorem streams_isStreaming (escalates : Bool) : Streams escalates IsStreaming where
  row h := h.fetchRow_of_row
  noRow := by
    intro s h
    obtain ⟨hsilent, hstreaming⟩ := h.fetchRow_of_noRow
    have hanswers : Answers escalates s.fetchRow.1 (none : Option (List Value)) := by
      rw [hsilent]
      exact answers_silent none
    exact ⟨hanswers, hstreaming⟩

end ScriptedSession

end TdsClient
