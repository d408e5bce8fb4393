import TdsClient.Proofs.Connection.Call
import TdsClient.Session.Script

/-!
# Sessions that serve a response

A response is a sequence of results, each a bare row count or columns with
rows. A session serves it if its uses give the results one after the other
and the rows of the current one in order, and no message ends a use.

What a session has still to give is said by a relation, which is not fixed
here: any relation will do whose uses keep it. For scripted sessions there
is one.

## Main definitions

* `ServerResult` — a result as it is sent.
* `Answers` — a use that succeeds without an error and without a raised warning.
* `Serves` — a relation between sessions and what they have still to give.
* `ScriptedSession.Awaits` — what a scripted session has still to give.

## Main results

* `serves_awaits` — scripted sessions serve their script.
-/

namespace TdsClient

variable {σ α : Type}

/-- A result as the server sends it: a bare row count, or columns with rows. -/
inductive ServerResult
  | count
  | set (columns : List Column) (rows : List (List Value))

/-- A use of the session that gives a result. Its messages only inform, and if warnings are raised
then it brings none. -/
structure Answers (escalates : Bool) (d : Delivery α) (a : α) : Prop where
  result : d.result = .ok a
  informs : ∀ m ∈ d.messages, m.severity ≤ 10
  calm : escalates = false ∨ Connection.warningsOf d.messages = []

/-- A use of the session that gives a result. -/
theorem Connection.call_of_answers {work : σ → Delivery α × σ} {c : Connection σ} {a : α}
    (husable : c.fault? = none) (h : Answers c.escalates (work c.session).1 a) :
    call work c = .ok a (c.took (work c.session)) := by
  refine (call_eq_ok_iff _ _ _ _).2 ⟨husable, h.result, ?_, h.calm, rfl⟩
  exact (Message.worst?_eq_none_iff _).2 fun m hm => decide_eq_true (h.informs m hm)

/-- Sessions of which it is known what they have still to give: the rows of the current result, if
there is one with columns, and the results behind it. The next result is only asked for when no row
is left. -/
structure Serves [Session σ] (escalates : Bool) (version : Version)
    (Holds : σ → Option (List (List Value)) → List ServerResult → Prop) : Prop where
  version : ∀ {s rows results}, Holds s rows results → Session.version s = version
  row : ∀ {s row rows results}, Holds s (some (row :: rows)) results →
    Answers escalates (Session.fetchRow s).1 (some row) ∧
      Holds (Session.fetchRow s).2 (some rows) results
  noRow : ∀ {s results}, Holds s (some []) results →
    Answers escalates (Session.fetchRow s).1 none ∧
      Holds (Session.fetchRow s).2 (some []) results
  count : ∀ {s rows results}, Holds s rows (.count :: results) → rows.getD [] = [] →
    Answers escalates (Session.nextResult s).1 (some []) ∧
      Holds (Session.nextResult s).2 none results
  set : ∀ {s rows columns raws results}, Holds s rows (.set columns raws :: results) →
    rows.getD [] = [] → columns ≠ [] →
    Answers escalates (Session.nextResult s).1 (some columns) ∧
      Holds (Session.nextResult s).2 (some raws) results
  complete : ∀ {s rows}, Holds s rows [] → rows.getD [] = [] →
    Answers escalates (Session.nextResult s).1 none

/-! ## Scripted sessions -/

/-- An item of a script that does not fail. Its messages only inform, and if warnings are raised
then it brings none. -/
structure Playback.IsCalm (escalates : Bool) (p : Playback) : Prop where
  succeeds : p.failure = none
  informs : ∀ m ∈ p.messages, m.severity ≤ 10
  calm : escalates = false ∨ Connection.warningsOf p.messages = []

namespace ScriptedResult

/-- A result as the session gives it. -/
def served (r : ScriptedResult) : ServerResult :=
  match r.columns with
  | none => .count
  | some columns => .set columns (r.rows.map (·.values))

/-- A result that can be read to its end. -/
def IsCalm (escalates : Bool) (r : ScriptedResult) : Prop :=
  r.playback.IsCalm escalates ∧ ∀ row ∈ r.rows, row.playback.IsCalm escalates

end ScriptedResult

namespace ScriptedSession

/-- What a scripted session has still to give. -/
structure Awaits (escalates : Bool) (version : Version) (s : ScriptedSession)
    (rows : Option (List (List Value))) (results : List ServerResult) : Prop where
  version : s.version = version
  results : s.pending.map ScriptedResult.served = results
  calm : ∀ r ∈ s.pending, r.IsCalm escalates
  current : s.current.isSome = rows.isSome
  rows : ∀ raws, rows = some raws → s.rows.map (·.values) = raws
  calmRows : ∀ row ∈ s.rows, row.playback.IsCalm escalates

variable {escalates : Bool} {version : Version}

theorem answers_play {p : Playback} (hp : p.IsCalm escalates) (a : α) :
    Answers escalates (play p a) a where
  result := by
    unfold play
    rw [hp.succeeds]
  informs := hp.informs
  calm := hp.calm

theorem answers_silent (a : α) : Answers escalates (.silent a) a where
  result := rfl
  informs _ hm := nomatch hm
  calm := .inr rfl

theorem pendingAfter_of_isCalm {p : Playback} (hp : p.IsCalm escalates)
    (pending : List ScriptedResult) : pendingAfter p pending = pending := by
  unfold pendingAfter
  rw [hp.succeeds]
  rfl

/-- The next row of a result with columns. -/
theorem Awaits.fetchRow_of_row {s : ScriptedSession} {row : List Value} {rows : List (List Value)}
    {results : List ServerResult} (hs : s.Awaits escalates version (some (row :: rows)) results) :
    Answers escalates s.fetchRow.1 (some row) ∧
      s.fetchRow.2.Awaits escalates version (some rows) results := by
  obtain ⟨current, hcurrent⟩ := Option.isSome_iff_exists.1 hs.current
  obtain ⟨first, rest, hrows, rfl, hrest⟩ := List.map_eq_cons_iff.1 (hs.rows _ rfl)
  have hfirst : first.playback.IsCalm escalates := by
    refine hs.calmRows first ?_
    rw [hrows]
    exact List.mem_cons_self
  have hfetch : s.fetchRow = (play first.playback (some first.values),
      { s with rows := rest, pending := s.pending }) := by
    unfold fetchRow
    rw [hcurrent, hrows]
    dsimp only
    rw [pendingAfter_of_isCalm hfirst]
  rw [hfetch]
  refine ⟨answers_play hfirst _, ⟨hs.version, hs.results, hs.calm, hs.current, ?_, ?_⟩⟩
  · intro raws hraws
    cases hraws
    exact hrest
  · intro later hlater
    refine hs.calmRows later ?_
    rw [hrows]
    exact List.mem_cons_of_mem first hlater

/-- The end of a result with columns. -/
theorem Awaits.fetchRow_of_noRow {s : ScriptedSession} {results : List ServerResult}
    (hs : s.Awaits escalates version (some []) results) :
    Answers escalates s.fetchRow.1 (none : Option (List Value)) ∧
      s.fetchRow.2.Awaits escalates version (some []) results := by
  obtain ⟨current, hcurrent⟩ := Option.isSome_iff_exists.1 hs.current
  have hrows : s.rows = [] := List.map_eq_nil_iff.1 (hs.rows _ rfl)
  have hfetch : s.fetchRow = (.silent none, { s with rowCount := finalCount current }) := by
    unfold fetchRow
    rw [hcurrent, hrows]
  rw [hfetch]
  exact ⟨answers_silent none, ⟨hs.version, hs.results, hs.calm, hs.current, hs.rows, hs.calmRows⟩⟩

/-- The first of the results to come, and what the session does when it is reached. -/
theorem Awaits.exists_first {s : ScriptedSession} {rows : Option (List (List Value))}
    {result : ServerResult} {results : List ServerResult}
    (hs : s.Awaits escalates version rows (result :: results)) :
    ∃ (first : ScriptedResult) (rest : List ScriptedResult),
      first.served = result ∧ rest.map ScriptedResult.served = results ∧
      first.IsCalm escalates ∧ (∀ r ∈ rest, r.IsCalm escalates) ∧
      s.nextResult = match first.columns with
        | none => (play first.playback (some []),
            { s with
              pending := rest, current := none, rows := [], rowCount := first.rowCount.getD (-1) })
        | some columns => (play first.playback (some columns),
            { s with
              pending := rest, current := some first, rows := first.rows, rowCount := -1 }) := by
  obtain ⟨first, rest, hpending, hfirst, hrest⟩ := List.map_eq_cons_iff.1 hs.results
  have hcalm : ∀ r ∈ first :: rest, r.IsCalm escalates := by
    intro r hr
    refine hs.calm r ?_
    rw [hpending]
    exact hr
  have hplayback := (hcalm first List.mem_cons_self).1
  refine ⟨first, rest, hfirst, hrest, hcalm first List.mem_cons_self,
    fun r hr => hcalm r (List.mem_cons_of_mem first hr), ?_⟩
  unfold nextResult
  rw [hpending]
  dsimp only
  rw [hplayback.succeeds, pendingAfter_of_isCalm hplayback]
  cases first.columns with
  | none => rfl
  | some columns => rfl

theorem Awaits.nextResult_of_count {s : ScriptedSession} {rows : Option (List (List Value))}
    {results : List ServerResult} (hs : s.Awaits escalates version rows (.count :: results)) :
    Answers escalates s.nextResult.1 (some ([] : List Column)) ∧
      s.nextResult.2.Awaits escalates version none results := by
  obtain ⟨first, rest, hfirst, hrest, hcalm, hcalmRest, hnext⟩ := hs.exists_first
  unfold ScriptedResult.served at hfirst
  cases hcolumns : first.columns with
  | some columns =>
      rw [hcolumns] at hfirst
      cases hfirst
  | none =>
      rw [hcolumns] at hnext
      rw [hnext]
      exact ⟨answers_play hcalm.1 _, ⟨hs.version, hrest, hcalmRest, rfl, nofun, nofun⟩⟩

theorem Awaits.nextResult_of_set {s : ScriptedSession} {rows : Option (List (List Value))}
    {columns : List Column} {raws : List (List Value)} {results : List ServerResult}
    (hs : s.Awaits escalates version rows (.set columns raws :: results)) :
    Answers escalates s.nextResult.1 (some columns) ∧
      s.nextResult.2.Awaits escalates version (some raws) results := by
  obtain ⟨first, rest, hfirst, hrest, hcalm, hcalmRest, hnext⟩ := hs.exists_first
  unfold ScriptedResult.served at hfirst
  cases hcolumns : first.columns with
  | none =>
      rw [hcolumns] at hfirst
      cases hfirst
  | some columns =>
      rw [hcolumns] at hfirst hnext
      cases hfirst
      rw [hnext]
      refine ⟨answers_play hcalm.1 _, ⟨hs.version, hrest, hcalmRest, rfl, ?_, hcalm.2⟩⟩
      intro raws hraws
      exact Option.some.inj hraws

/-- A scripted session serves its script. -/
theorem serves_awaits (escalates : Bool) (version : Version) :
    Serves escalates version (Awaits escalates version) where
  version hs := hs.version
  row hs := hs.fetchRow_of_row
  noRow hs := hs.fetchRow_of_noRow
  count hs _ := hs.nextResult_of_count
  set hs _ _ := hs.nextResult_of_set
  complete := by
    intro s rows hs _
    have hpending : s.pending = [] := List.map_eq_nil_iff.1 hs.results
    show Answers escalates s.nextResult.1 none
    unfold nextResult
    rw [hpending]
    exact answers_silent none

end ScriptedSession

end TdsClient
