import TdsClient.Proofs.Cursor.Coherence
import TdsClient.Proofs.Cursor.Traversal
import TdsClient.Session.Script

/-!
# After a failed statement

A statement can fail at many points: when its parameters are bound, when the
request is submitted, at any result, at a column that the client does not
read, or at a warning that is raised. Wherever it fails, once it has begun,
the cursor has no results afterwards, as if nothing had been executed.

There is one exception. A procedure with output parameters that gives a
result set makes the client warn, after the result set was reached. If this
warning is raised, the result set stays and can be read.

## Main definitions

* `IsBlank` — a cursor without results.

## Main results

* `statement_failed` — what a failed statement leaves.
* `callProcedure_keeps_results` — the exception does occur.
-/

namespace TdsClient

/-- The steps that execute statements. -/
def CursorAction.isStatement : CursorAction → Bool
  | .execute .. | .executeMany .. | .callProcedure .. => true
  | _ => false

namespace Cursor

open Connection Op

variable {σ : Type} {k : Cursor}

/-- A cursor without results: nothing is described, and no row is numbered. -/
structure IsBlank (k : Cursor) (c : Connection σ) : Prop where
  state : c.stateOf k = .unused
  description : (k.recordIn c).description = none
  columnNames : (k.recordIn c).columnNames = none
  conversions : (k.recordIn c).conversions = none
  rowNumber : (k.recordIn c).rowNumber = none

/-- What a cursor knows fits together, so its state tells that there are no results. -/
theorem isBlank_of_coherent {c : Connection σ} (hrecord : (k.recordIn c).Coherent)
    (hstate : c.stateOf k = .unused) : k.IsBlank c := by
  have hnone : (k.recordIn c).state ≠ .hasResults := by
    rw [show (k.recordIn c).state = .unused from hstate]
    exact nofun
  have hdescription := hrecord.description_eq_none hnone
  refine ⟨hstate, hdescription, ?_, ?_, hrecord.rowNumber_eq_none hnone⟩
  · rw [hrecord.names, hdescription, Option.map_none]
  · rw [hrecord.conversions, hdescription, Option.map_none]

/-- The client's own warning about outputs was raised, and the result set is still there. -/
structure KeptByWarning (k : Cursor) (e : Error) (c : Connection σ) : Prop where
  error : e = .warning (.ofClient outputsUnsupported)
  escalates : c.escalates = true
  rows : c.HasRows k

variable [Session σ]

/-! ## Statements -/

/-- A statement that may begin does so. -/
theorem walks_begin_of_usable {F : Connection σ → Prop} :
    Walks Move (fun c => (c.IsOpen k ∧ c.fault? = none) ∧ c.AtRest) (k.begin : Op σ Unit)
      (fun _ c => k.HasBegun c) F := by
  intro c hc
  have hended := walks_begin k c ⟨hc.1.1.1, hc.2⟩
  rw [begin_of_usable hc.1.1.2 hc.1.2] at hended ⊢
  exact hended

omit [Session σ] in
/-- A warning of the client fails only by being raised. -/
theorem meets_warn {P : Connection σ → Prop} (hP : Steady P) (text : String) :
    Meets P (warn text : Op σ Unit) (fun _ => P)
      fun e c => e = .warning (.ofClient text) ∧ c.escalates = true ∧ P c := by
  refine .bind (Q := fun _ => P) (.modifying fun _ hc => hP.heard _ hc) fun _ c hc => ?_
  rw [issue_eq]
  by_cases hescalates : c.escalates = true
  · rw [if_pos hescalates]
    exact ⟨rfl, hescalates, hc⟩
  · rw [if_neg hescalates]
    exact hP c _ rfl rfl rfl hc

/-- The call of a procedure that fails has only begun, unless the warning about outputs is raised
after it. -/
theorem meets_callProcedure (procedure : String) (arguments : Value) :
    Meets (fun c => (c.IsOpen k ∧ c.fault? = none) ∧ c.AtRest)
      (k.callProcedure procedure arguments : Op σ Value) (fun _ _ => True)
      fun e c => k.HasBegun c ∨ k.KeptByWarning e c := by
  have hbegun : ∀ (e : Error) (c : Connection σ),
      k.HasBegun c → k.HasBegun c ∨ k.KeptByWarning e c := fun _ _ hc => .inl hc
  refine .bind (walks_begin_of_usable.meets.failing hbegun) fun _ => .afterGet fun d => ?_
  refine .bind (((walks_protect_announce k _).meets.failing hbegun).strengthen fun _ hc => hc.1)
    fun request => ?_
  refine .bind (((walks_run k request).meets.failing hbegun).strengthen fun _ hc => hc.isIdle)
    fun _ => .afterLook fun r => ?_
  split
  next hstate =>
    split
    · refine .bind ((meets_warn (steady_hasRows k) _).weaken (fun c hc => ?_)
        (fun _ _ hc => hc) fun e c he => .inr ⟨he.1, he.2.1, he.2.2⟩) fun _ =>
          .pure fun _ _ => trivial
      rw [hc.2] at hstate
      exact hasRows_of_run hc.1 hstate
    · exact .pure fun _ _ => trivial
  · exact .afterGet fun _ => .pure fun _ _ => trivial

/-- Other statements that fail have only begun. -/
theorem meets_statement {a : CursorAction} (ha : a.isStatement = true) :
    Meets (fun c => (c.IsOpen k ∧ c.fault? = none) ∧ c.AtRest) (a.perform k : Op σ Answer)
      (fun _ _ => True) fun e c => k.HasBegun c ∨
        (∃ procedure arguments, a = .callProcedure procedure arguments) ∧ k.KeptByWarning e c := by
  have hbegin := walks_begin_of_usable (σ := σ) (k := k) (F := fun c => k.HasBegun c)
  cases a with
  | execute sql parameters =>
      have hwalks := walks_execute hbegin (fun _ hc => hc) sql parameters
      exact .bind (hwalks.meets.failing fun _ _ hc => .inl hc) fun _ => .pure fun _ _ => trivial
  | executeMany sql items =>
      have hwalks := walks_executeMany hbegin (fun _ hc => hc) sql items
      exact .bind (hwalks.meets.failing fun _ _ hc => .inl hc) fun _ => .pure fun _ _ => trivial
  | callProcedure procedure arguments =>
      refine .bind ((meets_callProcedure procedure arguments).failing fun _ _ hc => ?_) fun _ =>
        .pure fun _ _ => trivial
      exact hc.imp_right fun hkept => ⟨⟨procedure, arguments, rfl⟩, hkept⟩
  | _ => cases ha

/-- A blank cursor of a usable connection has nothing to fetch and no next result set. -/
theorem IsBlank.refuses {c : Connection σ} (hblank : k.IsBlank c) (husable : c.fault? = none) :
    (∀ f : Fetch, f.action.perform k c = .error (.interface .noResults) c) ∧
      CursorAction.nextSet.perform k c = .ok .nothing c := by
  have hopen : c.stateOf k ≠ .closed := by
    rw [hblank.state]
    exact nofun
  have hidle : isReading (c.stateOf k) = false := by
    rw [hblank.state]
    rfl
  exact ⟨fun f => perform_of_refused (checkResults_of_noColumns hopen husable hblank.description) f,
    perform_nextSet_of_idle hopen husable hidle⟩

end Cursor

open Connection Cursor

variable {σ : Type} [Session σ]

/-- In every run, if a statement fails that was executed with a cursor and a connection that can be
used, then the cursor has no results, so that fetches find none and there is no next result set; or
the statement is the call of a procedure, and what was raised is the client's own warning that
output parameters are not supported with result sets. -/
theorem statement_failed {c : Connection σ} (hc : Reachable c) {k : Cursor} (hk : c.IsOpen k)
    (husable : c.fault? = none) {a : CursorAction} (ha : a.isStatement = true) {e : Error}
    {c' : Connection σ} (hfailed : a.perform k c = .error e c') :
    (k.IsBlank c' ∧ (c'.fault? = none →
      (∀ f : Fetch, f.action.perform k c' = .error (.interface .noResults) c') ∧
        CursorAction.nextSet.perform k c' = .ok .nothing c')) ∨
    ((∃ procedure arguments, a = .callProcedure procedure arguments) ∧
      e = .warning (.ofClient outputsUnsupported) ∧ c'.escalates = true ∧
      c'.stateOf k = .hasResults) := by
  have hends := meets_statement ha c ⟨⟨hk, husable⟩, hc.isolated_atRest.2⟩
  rw [hfailed] at hends
  rcases hends with hbegun | ⟨hcall, hkept⟩
  · have hreachable := hc.performed (.onCursor k a) hk.1
    have hafter : Op.after (Action.perform (.onCursor k a)) c = c' := by
      unfold Op.after
      rw [show Action.perform (.onCursor k a) c = _ from hfailed]
    rw [hafter] at hreachable
    have hblank := isBlank_of_coherent (hreachable.coherent.records k) hbegun.2.2
    exact .inl ⟨hblank, hblank.refuses⟩
  · exact .inr ⟨hcall, hkept.error, hkept.escalates, hkept.rows.2.2⟩

/-- A server that rejects a query, and that has a procedure with a result set of one row. -/
def rejectingServer : ScriptedSession where
  responses :=
    [("SELECT 1", { playback := { failure := some (.rejected "no such table" .programming) } }),
      ("report", {
        results := [{
          columns := some [⟨"a", .intN, 4, 0, 0, true, false⟩]
          rows := [⟨[.int 1], {}⟩] }] })]

/-- A connection that raises warnings, with one cursor. -/
def raisingWarnings : Connection ScriptedSession :=
  (ConnectionOptions.connection
    { autocommit := .bool true, ansiDefaults := .bool false, escalation := .bool true }
    rejectingServer).runAll [.openCursor]

theorem reachable_raisingWarnings : Reachable raisingWarnings := by
  have hopened : Reachable (ConnectionOptions.connection
      { autocommit := .bool true, ansiDefaults := .bool false, escalation := .bool true }
      rejectingServer) :=
    .opened { autocommit := .bool true, ansiDefaults := .bool false, escalation := .bool true }
      rejectingServer rfl
  exact hopened.performed .openCursor trivial

/-- After the rejected query a fetch finds no results. -/
theorem statement_failed_rejected :
    ∃ e c', (CursorAction.execute "SELECT 1" .null).perform ⟨0⟩ raisingWarnings = .error e c' ∧
      Cursor.IsBlank ⟨0⟩ c' ∧
      CursorAction.fetchOne.perform ⟨0⟩ c' = .error (.interface .noResults) c' := by
  have hopen : raisingWarnings.IsOpen ⟨0⟩ :=
    ⟨show 0 < List.length _ by decide +kernel, by decide +kernel⟩
  have hfails : (match (CursorAction.execute "SELECT 1" .null).perform ⟨0⟩ raisingWarnings with
      | .ok _ _ => false
      | .error _ c' => c'.isOpen && !c'.isDead) = true := by decide +kernel
  cases hperformed : (CursorAction.execute "SELECT 1" .null).perform ⟨0⟩ raisingWarnings with
  | ok answer c' =>
      rw [hperformed] at hfails
      cases hfails
  | error e c' =>
      rw [hperformed] at hfails
      have husable : c'.fault? = none := by
        obtain ⟨hisOpen, halive⟩ := Bool.and_eq_true_iff.1 hfails
        exact fault?_eq_none_iff.2 ⟨hisOpen, by simpa using halive⟩
      rcases statement_failed reachable_raisingWarnings hopen (by decide +kernel) rfl hperformed
        with ⟨hblank, hrefuses⟩ | ⟨⟨_, _, hcall⟩, _⟩
      · exact ⟨e, c', rfl, hblank, (hrefuses husable).1 .one⟩
      · cases hcall

/-- A call of the procedure with an output parameter fails by the raised warning, and leaves the
result set: it is described, and the next fetch returns its row. -/
theorem callProcedure_keeps_results :
    raisingWarnings.IsOpen ⟨0⟩ ∧ raisingWarnings.fault? = none ∧
      ∃ e c', (CursorAction.callProcedure "report" (.tuple [.parameter (.int 1) true])).perform ⟨0⟩
          raisingWarnings = .error e c' ∧
        c'.stateOf ⟨0⟩ = .hasResults ∧ (Cursor.recordIn ⟨0⟩ c').description.isSome = true ∧
        ∃ row c'', CursorAction.fetchOne.perform ⟨0⟩ c' = .ok (.row row) c'' := by
  refine ⟨⟨show 0 < List.length _ by decide +kernel, by decide +kernel⟩, by decide +kernel, ?_⟩
  have hfails : (match (CursorAction.callProcedure "report"
        (.tuple [.parameter (.int 1) true])).perform ⟨0⟩ raisingWarnings with
      | .ok _ _ => false
      | .error _ c' => c'.stateOf ⟨0⟩ = .hasResults &&
          (Cursor.recordIn ⟨0⟩ c').description.isSome &&
          match CursorAction.fetchOne.perform ⟨0⟩ c' with
          | .ok (.row _) _ => true
          | _ => false) = true := by decide +kernel
  cases hperformed : (CursorAction.callProcedure "report"
      (.tuple [.parameter (.int 1) true])).perform ⟨0⟩ raisingWarnings with
  | ok answer c' =>
      rw [hperformed] at hfails
      cases hfails
  | error e c' =>
      rw [hperformed] at hfails
      obtain ⟨hkept, hfetches⟩ := Bool.and_eq_true_iff.1 hfails
      obtain ⟨hstate, hdescribed⟩ := Bool.and_eq_true_iff.1 hkept
      refine ⟨e, c', rfl, of_decide_eq_true hstate, hdescribed, ?_⟩
      split at hfetches
      next row c'' hfetched => exact ⟨row, c'', hfetched⟩
      · cases hfetches

end TdsClient
