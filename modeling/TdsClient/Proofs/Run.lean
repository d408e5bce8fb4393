import TdsClient.Proofs.Connection.Ownership

/-!
# Runs of a connection

A connection is opened over a session and set up. From then on it changes
by the actions of the program, each of which may fail, in any order and on
any of its cursors. Every action is made of moves, so what moves keep is
kept by every run. Between the actions no cursor has a request halfway.

## Main definitions

* `Reachable` — the connections that there can be.
* `Runs` — how one becomes another.

## Main results

* `walks_perform` — an action is made of moves.
* `Reachable.isolated` — in every run the cursors are kept apart.
* `Reachable.of_move` — what every move keeps holds in every run.
-/

namespace TdsClient

open Connection Op Cursor

variable {σ : Type} [Session σ]

/-! ## Actions -/

/-- Answers do not matter for the moves. -/
theorem walks_silently {pre post fail : Connection σ → Prop} {op : Op σ Unit}
    (h : Walks Move pre op (fun _ => post) fail) :
    Walks Move pre (silently op) (fun _ => post) fail :=
  .bind h fun _ => .pure fun _ hc => hc

/-- Properties are read without moves. -/
theorem walks_readCursor (k : Cursor) (p : CursorProperty) :
    Moving (p.read k : Op σ Answer) := by
  unfold CursorProperty.read
  split
  · exact .afterGet fun d => .pure fun _ hc => hc.1
  · refine .bind (walks_check k) fun _ => ?_
    exact .afterGet fun d => .pure fun _ hc => hc.1.1

theorem walks_readConnection (p : ConnectionProperty) : Moving (p.read : Op σ Answer) := by
  unfold ConnectionProperty.read
  split
  · refine .bind walks_checkOpen fun _ => ?_
    exact .afterGet fun d => .pure fun _ hc => hc.1.1
  · exact .afterGet fun d => .pure fun _ hc => hc.1

/-- Whatever a cursor that exists does is made of moves, and leaves no request halfway. -/
theorem walks_performCursor (k : Cursor) (a : CursorAction) :
    Walks Move (fun c => k.Attached c ∧ c.AtRest) (a.perform k : Op σ Answer)
      (fun _ c => c.AtRest) (fun c => c.AtRest) := by
  have hsteady : Steady fun c : Connection σ => k.Attached c ∧ c.AtRest :=
    (steady_attached k).and steady_atRest
  have hattached : ∀ c : Connection σ, k.Attached c ∧ c.AtRest → k.Attached c := fun _ hc => hc.1
  have hrest : ∀ c : Connection σ, k.Attached c ∧ c.AtRest → c.AtRest := fun _ hc => hc.2
  have hstart : ∀ c : Connection σ, k.Attached c ∧ c.AtRest → c.Has k ∧ c.AtRest :=
    fun _ hc => ⟨hc.1.1, hc.2⟩
  have hbegin := (walks_begin (σ := σ) k).strengthen hstart
  have hbegun : ∀ c : Connection σ, k.HasBegun c → c.AtRest := fun _ hc =>
    atRest_of_isIdle hc.isIdle
  cases a with
  | execute sql parameters =>
      exact walks_silently (walks_execute hbegin hbegun sql parameters)
  | executeMany sql items =>
      exact walks_silently (walks_executeMany hbegin hbegun sql items)
  | callProcedure procedure arguments =>
      exact .bind (walks_callProcedure hbegin hbegun procedure arguments fun _ hc =>
        atRest_of_hasRows hc) fun _ => .pure fun _ hc => hc
  | fetchOne =>
      refine .bind (Moving.of hrest (walks_fetchOne hsteady hattached)) fun row => ?_
      cases row with
      | none => exact .pure fun _ hc => hc
      | some row => exact .pure fun _ hc => hc
  | fetchMany size =>
      exact .bind (Moving.of hrest (walks_fetchMany hsteady hattached size)) fun _ =>
        .pure fun _ hc => hc
  | fetchAll =>
      exact .bind (Moving.of hrest (walks_fetchAll hsteady hattached)) fun _ =>
        .pure fun _ hc => hc
  | nextSet =>
      refine .bind (walks_nextSet k) fun found => ?_
      cases found with
      | false => exact .pure fun _ hc => hc
      | true => exact .pure fun _ hc => hc
  | iterate limit =>
      exact .bind (Moving.of hrest (walks_iterate hsteady hattached limit)) fun _ =>
        .pure fun _ hc => hc
  | setSizes =>
      exact walks_silently ((walks_check k).weaken hrest (fun _ _ hc => hc.1) fun _ hc => hc)
  | setArraySize value =>
      refine walks_silently ?_
      cases value with
      | int n =>
          exact (walks_change steady_atRest (fun r => { r with arraySize := n }) (fun _ => rfl)
            fun _ _ => .sized k n).strengthen hrest
      | _ => exact .throwing hrest
  | close => exact walks_silently ((walks_close k).strengthen hstart)
  | read property => exact (walks_readCursor k property).strengthen hrest

/-- An action on a cursor is one on a cursor that exists. -/
def Action.IsFor (a : Action) (c : Connection σ) : Prop :=
  match a with
  | .onCursor k _ => c.Has k
  | _ => True

theorem walks_openCursor : Moving (Connection.openCursor : Op σ Cursor) := by
  refine .bind walks_checkUsable fun _ => ?_
  refine fun c hc => ⟨.single (.opened hc.2), fun j hj => ?_⟩
  rw [stateOf, recordIn_opened]
  exact hc.1 j hj

/-- Whatever a program does with a connection is made of moves, and leaves no request halfway. -/
theorem walks_perform (a : Action) :
    Walks Move (fun c => (c.ReadsOwn ∧ a.IsFor c) ∧ c.AtRest) (a.perform : Op σ Answer)
      (fun _ c => c.AtRest) (fun c => c.AtRest) := by
  have hmoving : ∀ {op : Op σ Answer}, Moving op →
      Walks Move (fun c => (c.ReadsOwn ∧ a.IsFor c) ∧ c.AtRest) op (fun _ c => c.AtRest)
        (fun c => c.AtRest) := fun h => h.strengthen fun _ hc => hc.2
  cases a with
  | openCursor => exact hmoving (.bind walks_openCursor fun _ => .pure fun _ hc => hc)
  | commit => exact hmoving (walks_silently walks_commit)
  | rollback => exact hmoving (walks_silently walks_rollback)
  | setAutocommit value => exact hmoving (walks_silently (walks_setAutocommit value))
  | setTimeout value => exact hmoving (walks_silently (walks_setTimeout value))
  | useDatabase value => exact hmoving (walks_silently (walks_useDatabase value))
  | setEscalation value =>
      exact hmoving (walks_silently
        (.modifying (fun _ _ => .escalationSet value) fun _ hc => hc))
  | bulkInsert table rows batchSize tableLock encode =>
      exact hmoving (.bind (walks_bulkInsert table rows batchSize tableLock encode) fun _ =>
        .pure fun _ hc => hc)
  | close => exact hmoving (walks_silently Connection.walks_close)
  | leave failed => exact hmoving (walks_silently (walks_leave failed))
  | read property => exact hmoving (walks_readConnection property)
  | onCursor k action =>
      exact (walks_performCursor k action).strengthen fun _ hc =>
        ⟨⟨hc.1.2, fun hreading => (hc.1.1 k hreading).1⟩, hc.2⟩

/-! ## Runs -/

/-- The connections that there can be: opened and set up, and then used in any way. -/
inductive Reachable : Connection σ → Prop
  | opened (o : ConnectionOptions) (session : σ) {c : Connection σ}
      (hsetUp : setUp o.ansiDefaults.isTrue (o.connection session) = .ok () c) : Reachable c
  | performed {c : Connection σ} (hc : Reachable c) (a : Action) (ha : a.IsFor c) :
      Reachable (a.perform.after c)

/-- A new connection is set up by moves, and no request is halfway then. -/
theorem moves_setUp {o : ConnectionOptions} {session : σ} {c : Connection σ}
    (hsetUp : setUp o.ansiDefaults.isTrue (o.connection session) = .ok () c) :
    Moves (o.connection session) c ∧ c.AtRest := by
  have hended := walks_setUp o.ansiDefaults.isTrue (o.connection session) (atRest_of_inactive rfl)
  rw [hsetUp] at hended
  exact hended

/-- In every run the cursors of a connection are kept apart, and no operation ends with a request
halfway. -/
theorem Reachable.isolated_atRest {c : Connection σ} (hc : Reachable c) :
    Isolated c ∧ c.AtRest := by
  induction hc with
  | opened o session hsetUp =>
      obtain ⟨hmoves, hrest⟩ := moves_setUp hsetUp
      exact ⟨(isolated_connection o session).moves hmoves, hrest⟩
  | @performed c hc a ha ih =>
      have hended := (walks_perform a).after ⟨⟨ih.1.readsOwn, ha⟩, ih.2⟩
      exact ⟨ih.1.moves hended.1, hended.2⟩

/-- In every run the cursors of a connection are kept apart. -/
theorem Reachable.isolated {c : Connection σ} (hc : Reachable c) : Isolated c :=
  hc.isolated_atRest.1

/-- An action after a run is made of moves. -/
theorem Reachable.moves_perform {c : Connection σ} (hc : Reachable c) {a : Action}
    (ha : a.IsFor c) : Moves c (a.perform.after c) :=
  ((walks_perform a).after ⟨⟨hc.isolated.readsOwn, ha⟩, hc.isolated_atRest.2⟩).1

/-- A connection after one action of the program. -/
def Performs (c c' : Connection σ) : Prop := ∃ a : Action, a.IsFor c ∧ c' = a.perform.after c

/-- A connection after any number of actions. -/
abbrev Runs : Connection σ → Connection σ → Prop := Relation.ReflTransGen Performs

/-- What comes after a run is a longer run, and is made of moves. -/
theorem Reachable.runs {c c' : Connection σ} (hc : Reachable c) (hrun : Runs c c') :
    Reachable c' ∧ Moves c c' := by
  induction hrun with
  | refl => exact ⟨hc, .refl⟩
  | tail _ hlast ih =>
      obtain ⟨a, ha, rfl⟩ := hlast
      exact ⟨ih.1.performed a ha, ih.2.trans (ih.1.moves_perform ha)⟩

/-- What new connections have and every move keeps holds in every run. -/
theorem Reachable.of_move {P : Connection σ → Prop}
    (hopened : ∀ (o : ConnectionOptions) (session : σ), P (o.connection session))
    (hmove : ∀ c c' : Connection σ, Move c c' → P c → P c') {c : Connection σ}
    (hc : Reachable c) : P c := by
  induction hc with
  | opened o session hsetUp => exact (moves_setUp hsetUp).1.keep hmove (hopened o session)
  | performed hc a ha ih => exact (hc.moves_perform ha).keep hmove ih

end TdsClient
