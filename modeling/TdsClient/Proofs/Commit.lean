import TdsClient.Proofs.Footprint
import TdsClient.Proofs.Run
import TdsClient.Proofs.Text.Mention
import TdsClient.Session.Script

/-!
# Commits that nobody asked for

A connection composes batches by itself: to commit and roll back, to switch
the mode or the database, and to copy rows. A batch that mentions `COMMIT`
is one of those that commit, or it spells out a name that mentions it, of a
database, a table or a column. So in a program that neither commits nor
switches to autocommit mode, all that can commit is an assignment of the
mode which the connection is in already.

## Main definitions

* `Action.Commits` — the batches that commit, with the steps that compose them.
* `Action.Spells` — the names that a composed batch spells out.
* `Action.keepsTransaction` — a step that does not ask for a commit.

## Main results

* `commits_or_spells` — the composed batches that mention `COMMIT`.
* `commits_only_when_reassigned` — what is committed in a run that does not ask for it.
-/

namespace TdsClient

open Connection Op Text

/-! ## Declarations -/

/-- A number is written without letters. -/
theorem not_mem_toString {c : Char} (hdigit : c.isDigit = false) (hminus : c ≠ '-') (n : Int) :
    c ∉ (toString n).toList := by
  have hnat : ∀ m : Nat, c ∉ (toString m).toList := by
    intro m hc
    rw [isDigit_of_mem_toString hc] at hdigit
    cases hdigit
  cases n with
  | ofNat m => exact hnat m
  | negSucc m =>
      show c ∉ ("-" ++ toString (m + 1)).toList
      rw [String.toList_append, List.mem_append, not_or]
      exact ⟨by simpa using hminus, hnat _⟩

namespace Column

theorem not_mem_sizedDeclaration {name : String} (hname : 'O' ∉ name.toList) (limit : Int)
    (c : Column) : 'O' ∉ (sizedDeclaration name limit c).toList := by
  have hsize := not_mem_toString (c := 'O') (by decide) (by decide) c.size
  unfold sizedDeclaration
  split
  · rw [String.toList_append, List.mem_append, not_or]
    exact ⟨hname, by decide⟩
  · simp only [String.toList_append, List.mem_append, not_or]
    exact ⟨⟨⟨hname, by decide⟩, hsize⟩, by decide⟩

theorem not_mem_scaledDeclaration {name : String} (hname : 'C' ∉ name.toList) (c : Column) :
    'C' ∉ (scaledDeclaration name c).toList := by
  have hscale := not_mem_toString (c := 'C') (by decide) (by decide) c.scale
  unfold scaledDeclaration
  simp only [String.toList_append, List.mem_append, not_or]
  exact ⟨⟨⟨hname, by decide⟩, hscale⟩, by decide⟩

/-- No type is spelled with the word. -/
theorem not_mentions_declaration {c : Column} {declaration : String}
    (h : c.declaration = .ok declaration) : ¬ Mentions "COMMIT" declaration := by
  have hsized : ∀ {name : String} {limit : Int}, 'O' ∉ name.toList →
      ¬ Mentions "COMMIT" (sizedDeclaration name limit c) := fun hname =>
    not_mentions_of_not_mem (by decide) (not_mem_sizedDeclaration hname _ c)
  have hscaled : ∀ {name : String}, 'C' ∉ name.toList →
      ¬ Mentions "COMMIT" (scaledDeclaration name c) := fun hname =>
    not_mentions_of_not_mem (by decide) (not_mem_scaledDeclaration hname c)
  have hdecimal : ¬ Mentions "COMMIT"
      ("DECIMAL(" ++ toString c.precision ++ ", " ++ toString c.scale ++ ")") := by
    refine not_mentions_of_not_mem (c := 'O') (by decide) ?_
    simp only [String.toList_append, List.mem_append, not_or]
    exact ⟨⟨⟨⟨by decide, not_mem_toString (by decide) (by decide) _⟩, by decide⟩,
      not_mem_toString (by decide) (by decide) _⟩, by decide⟩
  unfold Column.declaration at h
  split at h
  all_goals cases h
  all_goals first
    | decide +kernel
    | with_reducible exact hdecimal
    | (with_reducible refine hsized ?_); decide
    | (with_reducible refine hscaled ?_); decide

/-- The declarations of columns are those of some of them. -/
theorem exists_of_mem_declarations {columns : List Column} {declarations : List String}
    (h : columns.mapM declaration = .ok declarations) {text : String} (htext : text ∈ declarations) :
    ∃ c ∈ columns, c.declaration = .ok text := by
  induction columns generalizing declarations with
  | nil =>
      cases h
      cases htext
  | cons c rest ih =>
      rw [List.mapM_cons] at h
      cases hfirst : c.declaration with
      | error e =>
          rw [hfirst] at h
          cases h
      | ok first =>
          rw [hfirst] at h
          cases hrest : rest.mapM declaration with
          | error e =>
              rw [hrest] at h
              cases h
          | ok others =>
              rw [hrest] at h
              cases h
              rcases List.mem_cons.1 htext with rfl | htext
              · exact ⟨c, List.mem_cons_self .., hfirst⟩
              · obtain ⟨found, hfound, hdeclared⟩ := ih hrest htext
                exact ⟨found, List.mem_cons_of_mem _ hfound, hdeclared⟩

end Column

/-! ## Composed batches -/

/-- The batches that commit, with the steps that compose them. -/
inductive Action.Commits : Action → String → Prop
  | commit : Commits .commit commitStatement
  | leave : Commits (.leave false) commitStatement
  | switch (wanted : Bool) :
      Commits (.setAutocommit (.bool wanted)) (switchStatement false wanted)

/-- The names that a composed batch spells out: of a database, a table or a column. -/
inductive Action.Spells : Action → String → String → Prop
  | database (name : String) : Spells (.useDatabase (.text name)) (useStatement name) name
  | asked (table : String) (rows batchSize : Value) (tableLock encode : Bool) :
      Spells (.bulkInsert table rows batchSize tableLock encode) (columnsStatement table) table
  | filled (table : String) (rows batchSize : Value) (tableLock encode : Bool)
      (columns : List Column) (declarations : List String) :
      Spells (.bulkInsert table rows batchSize tableLock encode)
        (insertStatement table columns declarations tableLock) table
  | column (table : String) (rows batchSize : Value) (tableLock encode : Bool)
      (columns : List Column) (declarations : List String) {c : Column} (hc : c ∈ columns) :
      Spells (.bulkInsert table rows batchSize tableLock encode)
        (insertStatement table columns declarations tableLock) c.name

theorem mentions_useStatement {name : String} (h : Mentions "COMMIT" (useStatement name)) :
    Mentions "COMMIT" name := by
  have htext : (useStatement name).toList =
      "USE".toList ++ ' ' :: (Bracketed.quote name).toList := by
    unfold useStatement
    rw [String.toList_append]
    rfl
  rcases h.around (by decide) htext with hbefore | hname
  · exact absurd hbefore (by decide +kernel)
  · exact Bracketed.mentions_quote (by decide) (by decide) (by decide) hname

theorem mentions_columnsStatement {table : String}
    (h : Mentions "COMMIT" (columnsStatement table)) : Mentions "COMMIT" table := by
  have htext : (columnsStatement table).toList =
      "SELECT TOP 0 * FROM".toList ++ ' ' :: table.toList := by
    have hstart : "SELECT TOP 0 * FROM ".toList = "SELECT TOP 0 * FROM".toList ++ [' '] := by decide
    unfold columnsStatement
    rw [String.toList_append, hstart, List.append_assoc, List.singleton_append]
  rcases h.around (by decide) htext with hbefore | htable
  · exact absurd hbefore (by decide +kernel)
  · exact htable

theorem mentions_columnDefinition {c : Column} {declaration : String}
    (hdeclaration : ¬ Mentions "COMMIT" declaration)
    (h : Mentions "COMMIT" (columnDefinition c declaration)) : Mentions "COMMIT" c.name := by
  have htext : (columnDefinition c declaration).toList =
      (Bracketed.quote c.name).toList ++ ' ' :: declaration.toList := by
    unfold columnDefinition
    rw [String.toList_append, String.toList_append, List.append_assoc]
    rfl
  rcases h.around (by decide) htext with hname | hafter
  · exact Bracketed.mentions_quote (by decide) (by decide) (by decide) hname
  · exact absurd hafter hdeclaration

/-- The statement before a batch of rows mentions the word in the name of the table or of a
column. -/
theorem mentions_insertStatement {table : String} {columns : List Column}
    {declarations : List String} {tableLock : Bool}
    (hdeclared : columns.mapM Column.declaration = .ok declarations)
    (h : Mentions "COMMIT" (insertStatement table columns declarations tableLock)) :
    Mentions "COMMIT" table ∨ ∃ c ∈ columns, Mentions "COMMIT" c.name := by
  have htext : (insertStatement table columns declarations tableLock).toList =
      "INSERT BULK".toList ++ ' ' :: (table.toList ++ '(' ::
        ([',', ' '].intercalate ((List.zipWith columnDefinition columns declarations).map
          String.toList) ++ ')' :: (if tableLock then " WITH (TABLOCK)" else "").toList)) := by
    unfold insertStatement
    simp only [String.toList_append, String.toList_intercalate, List.append_assoc]
    rfl
  rcases h.around (by decide) htext with hbefore | hrest
  · exact absurd hbefore (by decide +kernel)
  rcases infix_append_cons (by decide) hrest with htable | hrest
  · exact .inl htable
  rcases infix_append_cons (by decide) hrest with hdefinitions | hlock
  · rcases infix_intercalate (by decide) (by decide) hdefinitions with hnone | ⟨text, hin, hword⟩
    · exact absurd hnone (by decide)
    · obtain ⟨definition, hdefinition, rfl⟩ := List.mem_map.1 hin
      obtain ⟨i, hi, rfl⟩ := List.getElem_of_mem hdefinition
      rw [List.getElem_zipWith] at hword
      obtain ⟨c, _, hdeclaration⟩ :=
        Column.exists_of_mem_declarations hdeclared (List.getElem_mem _)
      refine .inr ⟨_, List.getElem_mem _, mentions_columnDefinition ?_ hword⟩
      exact Column.not_mentions_declaration hdeclaration
  · cases tableLock with
    | false => exact absurd hlock (by decide +kernel)
    | true => exact absurd hlock (by decide +kernel)

/-- A composed batch that mentions the word commits, or spells out a name that mentions it. -/
theorem commits_or_spells {a : Action} {sql : String} (h : a.Composes sql)
    (hword : Mentions "COMMIT" sql) :
    a.Commits sql ∨ ∃ name, a.Spells sql name ∧ Mentions "COMMIT" name := by
  cases h with
  | commit => exact .inl .commit
  | leave => exact .inl .leave
  | rollback => exact absurd hword (by decide +kernel)
  | switch current wanted =>
      cases current with
      | false => exact .inl (.switch wanted)
      | true =>
          cases wanted with
          | false => exact absurd hword (by decide +kernel)
          | true => exact absurd hword (by decide +kernel)
  | use name => exact .inr ⟨name, .database name, mentions_useStatement hword⟩
  | columns table rows batchSize tableLock encode =>
      exact .inr ⟨table, .asked .., mentions_columnsStatement hword⟩
  | insert table rows batchSize tableLock encode hdeclared =>
      rcases mentions_insertStatement hdeclared hword with htable | ⟨c, hc, hname⟩
      · exact .inr ⟨table, .filled .., htable⟩
      · exact .inr ⟨c.name, .column _ _ _ _ _ _ _ hc, hname⟩

/-! ## Statements of the program -/

/-- A statement that is not sent as a call is sent as it is. -/
theorem Request.eq_of_not_isCall {i : Inference} {style : ParamStyle} {minimize : Bool}
    {sql : String} {parameters : Value} {r : Request}
    (h : (ofStatement i style minimize sql parameters).result = .ok r)
    (hcall : r.isCall = false) : r = { sql := sql } := by
  cases parameters with
  | null =>
      cases h
      rfl
  | _ =>
      obtain ⟨source, hsource, h⟩ := Reported.result_bind_eq_ok h
      obtain ⟨pieces, hpieces, h⟩ := Reported.result_bind_eq_ok h
      split at h
      · cases h
        rfl
      · obtain ⟨statement, _, h⟩ := Reported.result_bind_eq_ok h
        obtain ⟨bound, _, h⟩ := Reported.result_bind_eq_ok h
        cases h
        cases hcall

/-- The statement that a step on a cursor is given, if it is. -/
def CursorAction.statement? : CursorAction → Option String
  | .execute sql _ | .executeMany sql _ => some sql
  | _ => none

/-- A batch that a cursor submits is the statement that its step was given. -/
theorem CursorAction.Requests.statement? {a : CursorAction} {r : Request} {sql : String}
    (h : a.Requests r) (hr : r.use = .batch sql) : a.statement? = some sql := by
  have hbatch : r.isCall = false ∧ r.sql = sql := by
    unfold Request.use at hr
    unfold Request.isCall
    cases hprocedure : r.procedure with
    | none =>
        rw [hprocedure] at hr
        exact ⟨rfl, SessionCall.batch.inj hr⟩
    | some procedure =>
        rw [hprocedure] at hr
        cases hr
  cases h with
  | execute i style hresult =>
      rw [Request.eq_of_not_isCall hresult hbatch.1] at hbatch
      exact congrArg some hbatch.2
  | executeMany i style hitem hresult =>
      rw [Request.eq_of_not_isCall hresult hbatch.1] at hbatch
      exact congrArg some hbatch.2
  | callProcedure i hresult =>
      unfold Request.ofProcedure at hresult
      split at hresult
      all_goals
        obtain ⟨bound, _, hresult⟩ := Reported.result_bind_eq_ok hresult
        cases hresult
        cases hbatch.1

/-- A batch is composed by the step, or it is the statement that the program gave to a cursor. -/
theorem Action.MayUse.composes_or_statement {a : Action} {sql : String}
    (h : a.MayUse (.batch sql)) :
    a.Composes sql ∨ ∃ k x, a = .onCursor k x ∧ x.statement? = some sql := by
  rcases h.composes_or_requests with hcomposed | ⟨k, x, r, rfl, hr, huse⟩
  · exact .inl hcomposed
  · exact .inr ⟨k, x, rfl, hr.statement? huse⟩

/-! ## Runs -/

/-- A step that does not ask for a commit: it neither commits, nor leaves the block without a
failure, nor switches to autocommit mode. -/
def Action.keepsTransaction : Action → Bool
  | .commit | .leave false | .setAutocommit (.bool true) => false
  | _ => true

variable {σ : Type} [Session σ]

/-- Autocommit mode stays off until it is switched on. -/
theorem autocommit_runAll {c : Connection σ} (hoff : c.autocommit = false) {actions : List Action}
    (hkeep : ∀ a ∈ actions, a.keepsTransaction = true) : (c.runAll actions).autocommit = false := by
  induction actions generalizing c with
  | nil => exact hoff
  | cons a rest ih =>
      obtain ⟨ha, hrest⟩ := List.forall_mem_cons.1 hkeep
      refine ih (c := a.perform.after c) ?_ hrest
      unfold Connection.autocommit at hoff ⊢
      rcases autocommitMode_perform a c with hmode | ⟨wanted, hmode, rfl⟩
      · rw [hmode]
        exact hoff
      · rw [hmode]
        cases wanted with
        | false => rfl
        | true => cases ha

/-- An assignment on a connection that can be used submits the batch that switches the mode. -/
theorem logged_setAutocommit {c : Connection (Recorded σ)} (husable : c.fault? = none)
    (wanted : Bool) :
    ∃ u reads, (Action.setAutocommit (.bool wanted)).perform.logged Recorded.uses c = u :: reads ∧
      u.call = .batch (switchStatement c.autocommit wanted) := by
  obtain ⟨u, reads, hlog, hcall, _⟩ :=
    log_execute logs_uses husable (switchStatement c.autocommit wanted)
  rw [← session_setAutocommit husable wanted] at hlog
  exact ⟨u, reads, logged_eq hlog, hcall⟩

/-- A connection is not in autocommit mode, and its program does anything that does not ask for a
commit. Then the mode stays off, and the record of the run is that of its steps. A batch in it is
the statement that the program gave to a cursor, or the connection composed it; and the connection
composed no batch that mentions `COMMIT`, unless the batch spells out a name that mentions it, or
the mode was assigned that the connection is in already. Such an assignment always commits, if the
connection can be used. -/
theorem commits_only_when_reassigned {c : Connection (Recorded σ)} (hoff : c.autocommit = false)
    {actions : List Action} (hkeep : ∀ a ∈ actions, a.keepsTransaction = true) :
    (c.runAll actions).autocommit = false ∧
    ((c.runAll actions).session.uses =
      c.session.uses ++ (c.trace Recorded.uses actions).flatMap (·.logged)) ∧
    (∀ step ∈ c.trace Recorded.uses actions, step.action ∈ actions ∧
      ∀ u ∈ step.logged, ∀ sql, u.call = .batch sql →
        (∃ k a, step.action = .onCursor k a ∧ a.statement? = some sql) ∨
        (step.action.Composes sql ∧
          (Mentions "COMMIT" sql →
            (step.action = .setAutocommit (.bool false) ∧ sql = switchStatement false false) ∨
            ∃ name, step.action.Spells sql name ∧ Mentions "COMMIT" name))) ∧
    ∀ before after, actions = before ++ .setAutocommit (.bool false) :: after →
      (c.runAll before).fault? = none →
      ∃ u reads,
        (Action.setAutocommit (.bool false)).perform.logged Recorded.uses (c.runAll before) =
          u :: reads ∧
        u.call = .batch (switchStatement false false) := by
  refine ⟨autocommit_runAll hoff hkeep, log_runAll logs_uses c actions, ?_, ?_⟩
  · intro step hstep
    obtain ⟨hmem, hmay⟩ := mayUse_of_mem_trace logs_uses hstep
    refine ⟨hmem, fun u hu sql hcall => ?_⟩
    have hbatch : step.action.MayUse (.batch sql) := hcall ▸ hmay u hu
    rcases hbatch.composes_or_statement with hcomposed | hstatement
    · refine .inr ⟨hcomposed, fun hword => ?_⟩
      have hkept := hkeep _ hmem
      generalize step.action = a at hcomposed hkept ⊢
      rcases commits_or_spells hcomposed hword with hcommits | hspells
      · cases hcommits with
        | commit => cases hkept
        | leave => cases hkept
        | switch wanted =>
            cases wanted with
            | false => exact .inl ⟨rfl, rfl⟩
            | true => cases hkept
      · exact .inr hspells
    · exact .inl hstatement
  · intro before after hactions husable
    have hstill : (c.runAll before).autocommit = false :=
      autocommit_runAll hoff fun a ha => hkeep a (hactions ▸ List.mem_append_left _ ha)
    obtain ⟨u, reads, hlogged, hcall⟩ := logged_setAutocommit husable false
    rw [hstill] at hcall
    exact ⟨u, reads, hlogged, hcall⟩

/-- A connection with transactions, to a server that accepts everything. -/
def transacting : Connection (Recorded ScriptedSession) :=
  (setUp false).after (ConnectionOptions.connection { ansiDefaults := .bool false } ⟨{}, []⟩)

theorem reachable_transacting : Reachable transacting :=
  .opened { ansiDefaults := .bool false } ⟨{}, []⟩ (returns_iff.1 (by decide +kernel))

/-- A program that commits by a statement of its own, and uses a database named after the word,
before it assigns the mode. -/
theorem commits_only_when_reassigned_transacting :
    let actions := [.openCursor, .onCursor ⟨0⟩ (.execute "COMMIT" .null),
      .useDatabase (.text "COMMIT"), .setAutocommit (.bool false), .rollback]
    transacting.autocommit = false ∧ (∀ a ∈ actions, a.keepsTransaction = true) ∧
      (transacting.runAll actions).autocommit = false ∧
      ∃ u reads, (Action.setAutocommit (.bool false)).perform.logged Recorded.uses
          (transacting.runAll (actions.take 3)) = u :: reads ∧
        u.call =
          .batch "IF @@TRANCOUNT > 0 COMMIT TRANSACTION;SET IMPLICIT_TRANSACTIONS ON;" := by
  intro actions
  have hoff : transacting.autocommit = false := by decide +kernel
  have hkeep : ∀ a ∈ actions, a.keepsTransaction = true := List.all_eq_true.1 rfl
  obtain ⟨hstill, _, _, hcommits⟩ := commits_only_when_reassigned hoff hkeep
  obtain ⟨u, reads, hlogged, hcall⟩ := hcommits (actions.take 3) [.rollback] rfl (by decide +kernel)
  exact ⟨hoff, hkeep, hstill, u, reads, hlogged, hcall⟩

/-- Assigning the mode that the connection is in commits, though nothing asks for it. -/
theorem reassignment_commits :
    Reachable transacting ∧ transacting.autocommit = false ∧
      (Action.setAutocommit (.bool false)).keepsTransaction = true ∧
      ¬ ∀ step ∈ transacting.trace Recorded.uses [.setAutocommit (.bool false)],
        (¬ ∃ k a, step.action = .onCursor k a) →
          ∀ u ∈ step.logged, ∀ sql, u.call = .batch sql → ¬ Mentions "COMMIT" sql := by
  refine ⟨reachable_transacting, by decide +kernel, rfl, fun hnever => ?_⟩
  obtain ⟨u, reads, hlogged, hcall⟩ :=
    logged_setAutocommit (c := transacting) (by decide +kernel) false
  have hstep : (⟨.setAutocommit (.bool false), u :: reads⟩ : TracedStep SessionUse) ∈
      transacting.trace Recorded.uses [.setAutocommit (.bool false)] :=
    hlogged ▸ List.mem_singleton.2 rfl
  have hown : ¬ ∃ k a, Action.setAutocommit (.bool false) = .onCursor k a := by
    rintro ⟨k, a, ha⟩
    cases ha
  exact hnever _ hstep hown u (List.mem_cons_self ..) _ hcall (by decide +kernel)

end TdsClient
