import TdsClient.Proofs.Cursor.Rows
import TdsClient.Proofs.Run
import TdsClient.Session.Script

/-!
# Isolation of cursors

However the cursors of a connection are used, in whatever order and with
whatever failures, and whatever the connection executes itself in between,
a cursor only returns rows from the response to the last request, which is
its own, and only tells messages heard during its own last statement.

## Main results

* `cursors_isolated` — both facts, for every run.
-/

namespace TdsClient

open Connection Op Cursor Journal

variable {σ : Type} [Session σ]

/-- What a cursor that has rows may say of the last request. -/
theorem Connection.Isolated.answers {c : Connection σ} (hc : Isolated c) {k : Cursor}
    (hstate : c.stateOf k = .hasResults) (hopen : c.isOpen = true) :
    ∃ request asked, lastSubmission c.journal = some (some k.index, request) ∧
      Continues (ask request asked).2 c.session := by
  have hreading : isReading (c.stateOf k) = true := by
    rw [hstate]
    rfl
  have hlast := (hc.readsOwn k hreading).2
  unfold lastSubmitter at hlast
  obtain ⟨⟨owner, request⟩, hsubmission, howner⟩ := Option.map_eq_some_iff.1 hlast
  cases howner
  obtain ⟨asked, hcontinues⟩ := hc.answersLast hopen k.index request hsubmission
  exact ⟨request, asked, hsubmission, hcontinues⟩

/-- The messages of a cursor are told if it can be used. -/
theorem read_messages {c : Connection σ} (hc : Hearing c) (k : Cursor) :
    CursorProperty.messages.read k c =
      (k.check >>= fun _ => pure (.messages (heardBy k.index c.journal)) : Op σ Answer) c := by
  show EStateM.bind k.check _ c = EStateM.bind k.check _ c
  unfold EStateM.bind
  have hchecked := gives_iff.1 (walks_check (P := fun d => d = c) k).gives c
  cases hcheck : k.check c with
  | error e d => rfl
  | ok u d =>
      have hd : d = c := (hchecked u d rfl hcheck).1
      subst hd
      exact congrArg (fun ms => EStateM.Result.ok (Answer.messages ms) d) (hc.hears k)

/-- In every run, the rows that a cursor returns are conversions of rows that the session
delivers for the request that this cursor submitted last, nobody having submitted another since;
and the messages that it tells are those heard from the beginning of its last statement until the
next statement began. -/
theorem cursors_isolated {c : Connection σ} (hc : Reachable c) (k : Cursor) :
    (∀ (a : CursorAction) (answer : Answer) (c' : Connection σ),
      a.perform k c = .ok answer c' → fetched answer ≠ [] →
        ∃ request asked raws,
          lastSubmission c.journal = some (some k.index, request) ∧
          Continues (ask request asked).2 c.session ∧
          Reads c.session raws c'.session ∧
          List.Forall₂ (Converts (k.recordIn c)) raws (fetched answer)) ∧
    CursorProperty.messages.read k c =
      (k.check >>= fun _ => pure (.messages (heardBy k.index c.journal)) : Op σ Answer) c := by
  constructor
  · intro a answer c' hperformed hrows
    have hyields := gives_iff.1 (gives_perform k c a) c answer c' rfl hperformed hrows
    obtain ⟨hstate, hopen⟩ := hyields.allowed hrows
    obtain ⟨request, asked, hsubmission, hcontinues⟩ := hc.isolated.answers hstate hopen
    obtain ⟨raws, hreads, hconverts⟩ := hyields.converted
    exact ⟨request, asked, raws, hsubmission, hcontinues, hreads, hconverts⟩
  · exact read_messages hc.isolated.hearing k

/-- A server with two queries, of which the first has a row and a message. -/
def twoQueries : ScriptedSession where
  responses :=
    [("SELECT 1", {
        playback := { messages := [.ofClient "first"] }
        results := [{
          columns := some [⟨"a", .intN, 4, 0, 0, true, false⟩]
          rows := [⟨[.int 1], {}⟩] }] }),
      ("SELECT 2", { results := [{ rowCount := some 2 }] })]

/-- A connection on which one of two cursors was overtaken by the other and executed its statement
once more. -/
def overtaken : Connection ScriptedSession :=
  (ConnectionOptions.connection { autocommit := .bool true, ansiDefaults := .bool false }
    twoQueries).runAll
    [.openCursor, .openCursor, .onCursor ⟨0⟩ (.execute "SELECT 1" .null),
      .onCursor ⟨1⟩ (.execute "SELECT 2" .null), .onCursor ⟨0⟩ (.execute "SELECT 1" .null)]

theorem reachable_overtaken : Reachable overtaken := by
  have hopened : Reachable (ConnectionOptions.connection
      { autocommit := .bool true, ansiDefaults := .bool false } twoQueries) :=
    .opened { autocommit := .bool true, ansiDefaults := .bool false } twoQueries rfl
  have htwo := (hopened.performed .openCursor trivial).performed .openCursor trivial
  have hfirst := htwo.performed (.onCursor ⟨0⟩ (.execute "SELECT 1" .null))
    (show 0 < List.length _ by decide +kernel)
  have hsecond := hfirst.performed (.onCursor ⟨1⟩ (.execute "SELECT 2" .null))
    (show 1 < List.length _ by decide +kernel)
  exact hsecond.performed (.onCursor ⟨0⟩ (.execute "SELECT 1" .null))
    (show 0 < List.length _ by decide +kernel)

/-- The first cursor of that connection has a row to return, and the server delivered it for that
cursor. -/
theorem cursors_isolated_overtaken :
    ∃ answer c', CursorAction.fetchOne.perform ⟨0⟩ overtaken = .ok answer c' ∧
      fetched answer ≠ [] ∧
      ∃ request asked raws,
        lastSubmission overtaken.journal = some (some 0, request) ∧
        Continues (ask request asked).2 overtaken.session ∧
        Reads overtaken.session raws c'.session := by
  have hfetches : (match CursorAction.fetchOne.perform ⟨0⟩ overtaken with
      | .ok answer _ => (fetched answer).length
      | .error _ _ => 0) = 1 := by decide +kernel
  cases hperformed : CursorAction.fetchOne.perform ⟨0⟩ overtaken with
  | error e c' =>
      rw [hperformed] at hfetches
      cases hfetches
  | ok answer c' =>
      rw [hperformed] at hfetches
      have hlength : (fetched answer).length = 1 := hfetches
      have hrows : fetched answer ≠ [] := by
        intro hnone
        rw [hnone] at hlength
        cases hlength
      obtain ⟨request, asked, raws, hlast, hcontinues, hreads, _⟩ :=
        (cursors_isolated reachable_overtaken ⟨0⟩).1 .fetchOne answer c' hperformed hrows
      exact ⟨answer, c', rfl, hrows, request, asked, raws, hlast, hcontinues, hreads⟩

end TdsClient
