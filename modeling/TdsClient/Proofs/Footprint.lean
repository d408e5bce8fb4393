import TdsClient.Connection.Action
import TdsClient.Proofs.Cursor.Footprint

/-!
# The footprint of a program's steps

A program reaches the server only through its steps. What each of them may
use the session for can be said without looking at the connection: the
batches that the connection composes by itself, each by one kind of step;
the requests that the steps on cursors ask for; and what goes with those.
A session that logs its uses then tells, step by step, what a run sent to
the server.

## Main definitions

* `Action.Composes` — the batches that steps compose themselves.
* `CursorAction.Requests` — the requests that steps on cursors ask for.
* `Action.MayUse` — all that a step may use the session for.
* `Logs`, `Connection.trace` — a log of a session, and a run with its log.

## Main results

* `uses_perform` — a step uses the session for what it may.
* `autocommitMode_perform` — only an assignment sets the mode.
* `log_runAll` — the log of a run is the logs of its steps.
* `mayUse_of_mem_trace` — what is logged in a run is what its steps may do.
-/

namespace TdsClient

open Connection Op Cursor

variable {σ β : Type}

/-! ## What a step may do -/

/-- The batches that a step composes for the connection itself. -/
inductive Action.Composes : Action → String → Prop
  | commit : Composes .commit commitStatement
  | leave : Composes (.leave false) commitStatement
  | rollback : Composes .rollback rollbackStatement
  | switch (current wanted : Bool) :
      Composes (.setAutocommit (.bool wanted)) (switchStatement current wanted)
  | use (name : String) : Composes (.useDatabase (.text name)) (useStatement name)
  | columns (table : String) (rows batchSize : Value) (tableLock encode : Bool) :
      Composes (.bulkInsert table rows batchSize tableLock encode) (columnsStatement table)
  | insert (table : String) (rows batchSize : Value) (tableLock encode : Bool)
      {columns : List Column} {declarations : List String}
      (hdeclared : columns.mapM Column.declaration = .ok declarations) :
      Composes (.bulkInsert table rows batchSize tableLock encode)
        (insertStatement table columns declarations tableLock)

/-- The requests that a step on a cursor asks for. -/
inductive CursorAction.Requests : CursorAction → Request → Prop
  | execute {sql parameters} (i : Inference) (style : ParamStyle) {r : Request}
      (hr : (Request.ofStatement i style true sql parameters).result = .ok r) :
      Requests (.execute sql parameters) r
  | executeMany {sql items} (i : Inference) (style : ParamStyle) {item : Value} {r : Request}
      (hitem : item ∈ items.items?.getD [])
      (hr : (Request.ofStatement i style false sql item).result = .ok r) :
      Requests (.executeMany sql items) r
  | callProcedure {procedure arguments} (i : Inference) {r : Request}
      (hr : (Request.ofProcedure i procedure arguments).result = .ok r) :
      Requests (.callProcedure procedure arguments) r

/-- All that a step may use the session for. -/
inductive Action.MayUse : Action → SessionCall → Prop
  | read {a call} (hread : call.isRead = true) : MayUse a call
  | composed {a sql} (hsql : a.Composes sql) : MayUse a (.batch sql)
  | requested {k a r} (hr : a.Requests r) : MayUse (.onCursor k a) r.use
  | copied (table : String) (rows batchSize : Value) (tableLock encode : Bool)
      {columns : List Column} {declarations : List String}
      (hdeclared : columns.mapM Column.declaration = .ok declarations)
      (batch : List (List Value)) :
      MayUse (.bulkInsert table rows batchSize tableLock encode)
        (.bulkCopy columns declarations batch)
  | timed (n : Int) : MayUse (.setTimeout (.int n)) (.timeout n)
  | closed : MayUse .close .close
  | left (failed : Bool) : MayUse (.leave failed) .close

/-- A batch is composed by the step, or it is the request of a step on a cursor. -/
theorem Action.MayUse.composes_or_requests {a : Action} {sql : String}
    (h : a.MayUse (.batch sql)) :
    a.Composes sql ∨ ∃ k x r, a = .onCursor k x ∧ x.Requests r ∧ r.use = .batch sql := by
  generalize hcall : SessionCall.batch sql = call at h
  cases h with
  | read hread =>
      subst hcall
      cases hread
  | composed hsql =>
      cases hcall
      exact .inl hsql
  | requested hr => exact .inr ⟨_, _, _, rfl, hr, rfl⟩
  | _ => cases hcall

/-- What a step may do: use the session for what it may, and set the mode to what it assigns. -/
def Action.licence (a : Action) : Licence where
  use := a.MayUse
  mode value := ∃ wanted : Bool, value = .bool wanted ∧ a = .setAutocommit value

variable [Session σ]

/-! ## What a step does -/

section perform

variable {L : Licence}

theorem uses_silently {op : Op σ Unit} (h : Uses L op) : Uses L (silently op) :=
  .bind h fun _ => Uses.pure _

theorem uses_readConnection (p : ConnectionProperty) : Uses L (p.read : Op σ Answer) := by
  unfold ConnectionProperty.read
  split
  · exact .bind uses_checkOpen fun _ => Uses.afterGet fun _ => Uses.pure _
  · exact Uses.afterGet fun _ => Uses.pure _

theorem uses_readCursor (k : Cursor) (p : CursorProperty) : Uses L (p.read k : Op σ Answer) := by
  unfold CursorProperty.read
  split
  · exact Uses.afterGet fun _ => Uses.pure _
  · exact .bind (uses_check k) fun _ => Uses.afterGet fun _ => Uses.pure _

theorem uses_openCursor : Uses L (Connection.openCursor : Op σ Cursor) :=
  .bind uses_checkUsable fun _ => fun _ _ => ⟨.single (.spared rfl rfl), trivial⟩

end perform

theorem uses_performCursor (k : Cursor) (a : CursorAction) :
    Uses (Action.onCursor k a).licence (a.perform k : Op σ Answer) := by
  have hread : ∀ call : SessionCall, call.isRead = true →
      (Action.onCursor k a).licence.use call := fun _ h => .read h
  cases a with
  | execute sql parameters =>
      exact uses_silently (uses_execute hread k fun i style r hr =>
        .requested (.execute i style hr))
  | executeMany sql items =>
      exact uses_silently (uses_executeMany hread k fun i style item hitem r hr =>
        .requested (.executeMany i style hitem hr))
  | callProcedure procedure arguments =>
      exact .bind (uses_callProcedure hread k fun i r hr => .requested (.callProcedure i hr))
        fun _ => Uses.pure _
  | fetchOne =>
      refine .bind (uses_fetchOne hread k) fun row => ?_
      cases row with
      | none => exact Uses.pure _
      | some row => exact Uses.pure _
  | fetchMany size => exact .bind (uses_fetchMany hread k size) fun _ => Uses.pure _
  | fetchAll => exact .bind (uses_fetchAll hread k) fun _ => Uses.pure _
  | nextSet =>
      refine .bind (uses_nextSet hread k) fun found => ?_
      cases found with
      | false => exact Uses.pure _
      | true => exact Uses.pure _
  | iterate limit => exact .bind (uses_iterate hread k limit) fun _ => Uses.pure _
  | setSizes => exact uses_silently (uses_check k)
  | setArraySize value =>
      refine uses_silently ?_
      cases value with
      | int n => exact uses_change k _
      | _ => exact Uses.throwing _
  | close => exact uses_silently (Cursor.uses_close k)
  | read property => exact uses_readCursor k property

/-- A step uses the session for what it may, and sets no mode but what it assigns. -/
theorem uses_perform (a : Action) : Uses a.licence (a.perform : Op σ Answer) := by
  have hread : ∀ call : SessionCall, call.isRead = true → a.licence.use call := fun _ h => .read h
  cases a with
  | openCursor => exact .bind uses_openCursor fun _ => Uses.pure _
  | commit => exact uses_silently (uses_commit hread (.composed .commit))
  | rollback => exact uses_silently (uses_rollback hread (.composed .rollback))
  | setAutocommit value =>
      refine uses_silently (uses_setAutocommit hread (fun current wanted hvalue => ?_)
        fun wanted hvalue => ⟨wanted, hvalue, rfl⟩)
      rw [hvalue]
      exact .composed (.switch current wanted)
  | setTimeout value =>
      refine uses_silently (uses_setTimeout fun n hvalue => ?_)
      rw [hvalue]
      exact .timed n
  | useDatabase value =>
      refine uses_silently (uses_useDatabase hread fun name hvalue => ?_)
      rw [hvalue]
      exact .composed (.use name)
  | setEscalation value => exact uses_silently (Uses.sparing (fun _ => rfl) fun _ => rfl)
  | bulkInsert table rows batchSize tableLock encode =>
      refine .bind (uses_bulkInsert hread (.composed (.columns ..))
        (fun columns declarations hdeclared => ⟨?_, fun batch => ?_⟩) rows batchSize encode)
        fun _ => Uses.pure _
      · exact .composed (.insert _ _ _ _ _ hdeclared)
      · exact .copied _ _ _ _ _ hdeclared batch
  | close => exact uses_silently (Connection.uses_close .closed)
  | leave failed =>
      refine uses_silently (uses_leave hread (fun hfailed => ?_) (.left failed))
      rw [hfailed]
      exact .composed .leave
  | read property => exact uses_readConnection property
  | onCursor k a => exact uses_performCursor k a

/-- Only an assignment of a truth value sets the mode, and only to that. -/
theorem autocommitMode_perform (a : Action) (c : Connection σ) :
    (a.perform.after c).autocommitMode = c.autocommitMode ∨
      ∃ wanted : Bool, (a.perform.after c).autocommitMode = .bool wanted ∧
        a = .setAutocommit (.bool wanted) := by
  refine ((uses_perform a).after c).2.imp_right ?_
  rintro ⟨wanted, hmode, ha⟩
  exact ⟨wanted, hmode, hmode ▸ ha⟩

omit [Session σ] in
/-- Answers do not matter for what is left. -/
theorem after_silently (op : Op σ Unit) (c : Connection σ) :
    (silently op).after c = op.after c := by
  unfold silently
  rw [after_bind]
  unfold Op.after
  cases op c <;> rfl

/-! ## Assignments of the mode -/

/-- An assignment on a connection that can be used ends as the statement does that switches the
mode. If that returns, the mode is noted. -/
theorem perform_setAutocommit {c : Connection σ} (husable : c.fault? = none) (wanted : Bool) :
    (Action.setAutocommit (.bool wanted)).perform c =
      match execute (switchStatement c.autocommit wanted) c with
      | .ok _ d => .ok .nothing { d with autocommitMode := .bool wanted }
      | .error e d => .error e d := by
  have hassign : Connection.setAutocommit (.bool wanted) c =
      (execute (switchStatement c.autocommit wanted) >>= fun _ =>
        modify fun d : Connection σ => { d with autocommitMode := .bool wanted }) c :=
    bind_of_ok _ (checkUsable_of_usable husable)
  show (Connection.setAutocommit (.bool wanted) >>= fun _ => pure .nothing : Op σ Answer) c = _
  cases hended : execute (switchStatement c.autocommit wanted) c with
  | ok u d =>
      rw [bind_of_ok _ hended] at hassign
      exact bind_of_ok _ hassign
  | error e d =>
      rw [bind_of_error _ hended] at hassign
      exact bind_of_error _ hassign

/-- On a connection that can be used, what becomes of the session by an assignment is what becomes
of it by the statement that switches the mode. -/
theorem session_setAutocommit {c : Connection σ} (husable : c.fault? = none) (wanted : Bool) :
    ((Action.setAutocommit (.bool wanted)).perform.after c).session =
      ((execute (switchStatement c.autocommit wanted)).after c).session := by
  unfold Op.after
  rw [perform_setAutocommit husable]
  cases execute (switchStatement c.autocommit wanted) c <;> rfl

/-! ## Logs -/

/-- A log of a session lists its uses, the earliest first. -/
structure Logs (log : σ → List β) (callOf : β → SessionCall) : Prop where
  turn : ∀ (s : σ) (call : SessionCall), ∃ b, log (call.turn s) = log s ++ [b] ∧ callOf b = call

/-- Several uses are logged in their order. -/
theorem Logs.foldl {log : σ → List β} {callOf : β → SessionCall} (hlogs : Logs log callOf)
    (calls : List SessionCall) (s : σ) :
    ∃ bs, log (calls.foldl SessionCall.turn s) = log s ++ bs ∧ bs.map callOf = calls := by
  induction calls generalizing s with
  | nil => exact ⟨[], (List.append_nil _).symm, rfl⟩
  | cons call rest ih =>
      obtain ⟨b, hb, hcall⟩ := hlogs.turn s call
      obtain ⟨bs, hbs, hcalls⟩ := ih (call.turn s)
      refine ⟨b :: bs, ?_, ?_⟩
      · rw [List.foldl_cons, hbs, hb, List.append_assoc, List.singleton_append]
      · rw [List.map_cons, hcall, hcalls]

/-- A record of a session is a log of it. -/
theorem logs_uses : Logs (Recorded.uses (σ := σ)) SessionUse.call where
  turn s call := by
    cases call with
    | timeout seconds => exact ⟨_, rfl, rfl⟩
    | batch sql => exact ⟨_, rfl, rfl⟩
    | call procedure parameters => exact ⟨_, rfl, rfl⟩
    | nextResult => exact ⟨_, rfl, rfl⟩
    | fetchRow => exact ⟨_, rfl, rfl⟩
    | bulkCopy columns declarations rows => exact ⟨_, rfl, rfl⟩
    | close => exact ⟨_, rfl, rfl⟩

/-! ## Runs with their logs -/

/-- A step of a run with what was logged meanwhile. -/
structure TracedStep (β : Type) where
  action : Action
  logged : List β

/-- What is logged during an operation. -/
def Op.logged {α : Type} (log : σ → List β) (op : Op σ α) (c : Connection σ) : List β :=
  (log (op.after c).session).drop (log c.session).length

/-- The steps of a run, each with what was logged meanwhile. -/
def Connection.trace (log : σ → List β) (c : Connection σ) : List Action → List (TracedStep β)
  | [] => []
  | a :: rest => ⟨a, a.perform.logged log c⟩ :: trace log (a.perform.after c) rest

omit [Session σ] in
/-- What the log has more after an operation was logged during it. -/
theorem logged_eq {α : Type} {log : σ → List β} {op : Op σ α} {c : Connection σ} {bs : List β}
    (h : log (op.after c).session = log c.session ++ bs) : op.logged log c = bs := by
  unfold Op.logged
  rw [h, List.drop_left]

section logs

variable {log : σ → List β} {callOf : β → SessionCall} (hlogs : Logs log callOf)
include hlogs

/-- What is logged during an operation that does what it may is what it may. -/
theorem logged_of_uses {α : Type} {L : Licence} {op : Op σ α} (h : Uses L op)
    (c : Connection σ) :
    log (op.after c).session = log c.session ++ op.logged log c ∧
      ∀ b ∈ op.logged log c, L.use (callOf b) := by
  obtain ⟨calls, hcalls, hsession⟩ := (h.after c).1
  obtain ⟨bs, hbs, hmap⟩ := hlogs.foldl calls c.session
  have hlog : log (op.after c).session = log c.session ++ bs := hsession ▸ hbs
  rw [logged_eq hlog]
  refine ⟨hlog, fun b hb => hcalls _ ?_⟩
  rw [← hmap]
  exact List.mem_map_of_mem hb

/-- A statement on a connection that can be used is logged, and after it only reads are. -/
theorem log_execute {c : Connection σ} (husable : c.fault? = none) (sql : String) :
    ∃ b reads, log ((execute sql).after c).session = log c.session ++ b :: reads ∧
      callOf b = .batch sql ∧ ∀ r ∈ reads, (callOf r).isRead = true := by
  obtain ⟨calls, hcalls, hsession⟩ := after_execute husable sql
  obtain ⟨b, hb, hcall⟩ := hlogs.turn c.session (.batch sql)
  obtain ⟨reads, hreads, hmap⟩ := hlogs.foldl calls ((SessionCall.batch sql).turn c.session)
  refine ⟨b, reads, ?_, hcall, fun r hr => hcalls _ ?_⟩
  · rw [hsession, hreads, hb, List.append_assoc, List.singleton_append]
  · rw [← hmap]
    exact List.mem_map_of_mem hr

/-- The log of a run is what was logged before it, and the logs of its steps. -/
theorem log_runAll (c : Connection σ) (actions : List Action) :
    log (c.runAll actions).session =
      log c.session ++ (c.trace log actions).flatMap (·.logged) := by
  induction actions generalizing c with
  | nil => exact (List.append_nil _).symm
  | cons a rest ih =>
      have hstep := (logged_of_uses hlogs (uses_perform a) c).1
      have hrest := ih (a.perform.after c)
      rw [hstep, List.append_assoc] at hrest
      exact hrest

/-- What is logged in a run belongs to its steps, and is what they may use the session for. -/
theorem mayUse_of_mem_trace {c : Connection σ} {actions : List Action} {step : TracedStep β}
    (hstep : step ∈ c.trace log actions) :
    step.action ∈ actions ∧ ∀ b ∈ step.logged, step.action.MayUse (callOf b) := by
  induction actions generalizing c with
  | nil => cases hstep
  | cons a rest ih =>
      rcases List.mem_cons.1 hstep with rfl | hstep
      · exact ⟨List.mem_cons_self .., (logged_of_uses hlogs (uses_perform a) c).2⟩
      · exact (ih hstep).imp_left (List.mem_cons_of_mem _)

end logs

end TdsClient
