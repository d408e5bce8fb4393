import TdsClient.Proofs.Connection.Call
import TdsClient.Proofs.Connection.Move
import TdsClient.Proofs.Operation

/-!
# The moves of a connection's own operations

Requests, warnings and the statements of the connection itself as walks.
What holds of the cursors and of the owner of the last request is kept by
everything that only hears messages or issues warnings; such conditions are
called steady here, and most operations keep every one of them.

## Main results

* `walks_call` — a use of the session.
* `walks_execute`, `walks_bulkInsert` — statements of the connection.
-/

namespace TdsClient.Connection

open Op Cursor Journal

variable {σ α : Type}

/-- How far the cursors are. -/
def states (c : Connection σ) : List CursorState := c.cursors.map (·.state)

theorem stateOf_eq (c : Connection σ) (k : Cursor) :
    c.stateOf k = (c.states[k.index]?).getD .unused := by
  unfold stateOf Cursor.recordIn states
  rw [List.getElem?_map]
  cases c.cursors[k.index]? with
  | none => rfl
  | some r => rfl

theorem has_iff (c : Connection σ) (k : Cursor) : c.Has k ↔ k.index < c.states.length := by
  unfold Has states
  rw [List.length_map]

/-- A condition on the states of the cursors, the active one, and the owner of the last request
alone. -/
def Steady (P : Connection σ → Prop) : Prop :=
  ∀ c c', c'.states = c.states → c'.active = c.active →
    lastSubmitter c'.journal = lastSubmitter c.journal → P c → P c'

theorem Steady.and {P Q : Connection σ → Prop} (hP : Steady P) (hQ : Steady Q) :
    Steady fun c => P c ∧ Q c := by
  intro c c' hstates hactive hlast h
  exact ⟨hP c c' hstates hactive hlast h.1, hQ c c' hstates hactive hlast h.2⟩

theorem steady_inactive : Steady fun c : Connection σ => c.active = none := by
  intro c c' _ hactive _ h
  rw [hactive, h]

theorem steady_lastSubmitter (owner : Option Nat) : Steady fun c : Connection σ =>
    lastSubmitter c.journal = some owner := by
  intro c c' _ _ hlast h
  rw [hlast, h]

theorem steady_isIdle (k : Cursor) : Steady fun c : Connection σ => c.IsIdle k := by
  intro c c' hstates hactive _ h
  rw [IsIdle, has_iff, stateOf_eq, hstates, hactive]
  rwa [IsIdle, has_iff, stateOf_eq] at h

theorem steady_isReader (k : Cursor) : Steady fun c : Connection σ => c.IsReader k := by
  intro c c' hstates hactive _ h
  rw [IsReader, has_iff, stateOf_eq, hstates, hactive]
  rwa [IsReader, has_iff, stateOf_eq] at h

theorem steady_hasRows (k : Cursor) : Steady fun c : Connection σ => c.HasRows k := by
  intro c c' hstates hactive _ h
  rw [HasRows, has_iff, stateOf_eq, hstates, hactive]
  rwa [HasRows, has_iff, stateOf_eq] at h

theorem steady_maySubmit (owner : Option Cursor) :
    Steady fun c : Connection σ => c.MaySubmit owner := by
  cases owner with
  | none => exact steady_inactive
  | some k => exact steady_isIdle k

/-- The active cursor has no request of which it is still to reach a result. -/
def AtRest (c : Connection σ) : Prop :=
  ∀ k : Cursor, c.active = some k.index → c.stateOf k ≠ .executing

theorem steady_atRest : Steady fun c : Connection σ => c.AtRest := by
  intro c c' hstates hactive _ h k hk
  rw [stateOf_eq, hstates, ← stateOf_eq]
  exact h k (hactive ▸ hk)

theorem atRest_of_inactive {c : Connection σ} (h : c.active = none) : c.AtRest := by
  intro k hk
  rw [h] at hk
  cases hk

/-- Only the state of the active cursor matters. -/
theorem atRest_of_active {c : Connection σ} {k : Cursor} (hactive : c.active = some k.index)
    (hstate : c.stateOf k ≠ .executing) : c.AtRest := by
  intro j hj
  rw [hactive] at hj
  rw [← eq_of_index (Option.some.inj hj)]
  exact hstate

variable [Session σ] {P : Connection σ → Prop}

/-- An operation that is made of moves and does not leave a request halfway. -/
abbrev Moving (op : Op σ α) : Prop :=
  Walks Move (fun c => c.AtRest) op (fun _ c => c.AtRest) (fun c => c.AtRest)

/-- Nothing is left halfway if the connection is at rest all the time. -/
theorem Moving.of (hP : ∀ c, P c → c.AtRest) {op : Op σ α}
    (h : Walks Move P op (fun _ => P) P) :
    Walks Move P op (fun _ c => c.AtRest) (fun c => c.AtRest) :=
  h.weaken (fun _ hc => hc) (fun _ => hP) hP

theorem walks_ofExcept (result : Except Error α) :
    Walks Move P (Op.ofExcept result : Op σ α) (fun _ => P) P :=
  .ofExcept (fun _ _ _ hc => hc) fun _ hc => hc

/-! ## Warnings -/

theorem walks_issue (hP : Steady P) (w : Warning) :
    Walks Move P (issue w : Op σ Unit) (fun _ => P) P := by
  intro c hc
  rw [issue_eq]
  by_cases hescalates : c.escalates = true
  · rw [if_pos hescalates]
    exact ⟨.refl, hc⟩
  · rw [if_neg hescalates]
    exact ⟨.single (.issued w (by simpa using hescalates)), hP c _ rfl rfl rfl hc⟩

theorem walks_issueAll (hP : Steady P) (ws : List Warning) :
    Walks Move P (issueAll ws : Op σ Unit) (fun _ => P) P := by
  induction ws with
  | nil => exact .pure fun _ hc => hc
  | cons w rest ih => exact .bind (walks_issue hP w) fun _ => ih

theorem walks_report (hP : Steady P) (messages : List Message) :
    Walks Move P (report messages : Op σ Unit) (fun _ => P) P := by
  unfold report
  split
  · exact .throwing fun _ hc => hc
  · exact walks_issueAll hP _

omit [Session σ] in
/-- Hearing messages changes nothing that a steady condition looks at. -/
theorem Steady.heard (hP : Steady P) {c : Connection σ} (messages : List Message) (hc : P c) :
    P (c.heard messages) :=
  hP c _ rfl rfl (lastSubmitter_append_heard _ _) hc

theorem walks_warn (hP : Steady P) (text : String) :
    Walks Move P (warn text : Op σ Unit) (fun _ => P) P :=
  .bind (.modifying (fun _ _ => .warned text) fun _ hc => hP.heard _ hc) fun _ =>
    walks_issue hP _

theorem walks_warnAll (hP : Steady P) (texts : List String) :
    Walks Move P (warnAll texts : Op σ Unit) (fun _ => P) P := by
  induction texts with
  | nil => exact .pure fun _ hc => hc
  | cons text rest ih => exact .bind (walks_warn hP text) fun _ => ih

theorem walks_announce (hP : Steady P) (x : Reported α) :
    Walks Move P (announce x : Op σ α) (fun _ => P) P :=
  .bind (walks_warnAll hP _) fun _ => walks_ofExcept _

/-! ## Uses of the session -/

/-- A check that is passed tells that there is no fault. -/
theorem walks_checkUsable :
    Walks Move P (checkUsable : Op σ Unit) (fun _ c => P c ∧ c.fault? = none) P := by
  intro c hc
  cases hfault : c.fault? with
  | none =>
      rw [checkUsable_of_usable hfault]
      exact ⟨.refl, hc, hfault⟩
  | some fault =>
      unfold checkUsable refuseIf
      rw [hfault]
      exact ⟨.refl, hc⟩

/-- What is settled was delivered, and the connection has taken it over. -/
theorem settle_received (hP : Steady P) (work : σ → Delivery α × σ) (c₀ c : Connection σ)
    (hc : P c) (hmove : Move c₀ (c.absorbed (work c.session))) :
    Ended Move (fun _ => P) P c₀
      (settle (work c.session).1 (c.received (work c.session).2 (work c.session).1.messages)) := by
  have hkept : P (c.absorbed (work c.session)) :=
    hP c _ rfl rfl (lastSubmitter_append_heard _ _) hc
  unfold settle
  unfold absorbed Delivery.isLost at hmove hkept
  rcases hresult : (work c.session).1.result with failure | a
  · cases failure with
    | lost text timedOut =>
        rw [hresult, Bool.or_true] at hmove hkept
        exact ⟨.single hmove, hkept⟩
    | rejected text errorClass =>
        rw [hresult, Bool.or_false] at hmove hkept
        exact ⟨.single hmove, hkept⟩
    | badData text =>
        rw [hresult, Bool.or_false] at hmove hkept
        exact ⟨.single hmove, hkept⟩
    | unexpected kind =>
        rw [hresult, Bool.or_false] at hmove hkept
        exact ⟨.single hmove, hkept⟩
  · rw [hresult, Bool.or_false] at hmove hkept
    have hreport : Walks Move P (report (work c.session).1.messages >>= fun _ => Pure.pure a)
        (fun _ => P) P :=
      .bind (walks_report hP _) fun _ => .pure fun _ hd => hd
    exact (hreport _ hkept).after_steps (.single hmove)

/-- A use of the session that is a move keeps every steady condition. -/
theorem walks_call (hP : Steady P) {work : σ → Delivery α × σ}
    (hmove : ∀ c, P c → c.fault? = none → Move c (c.absorbed (work c.session))) :
    Walks Move P (call work) (fun _ => P) P := by
  refine .bind walks_checkUsable fun _ => ?_
  intro c hc
  exact settle_received hP work c c hc.1 (hmove c hc.1 hc.2)

/-! ## Statements of the connection -/

/-- A statement begins with its owner active. If it cannot begin nothing is changed. -/
theorem walks_beginStatement (owner : Option Cursor) (hP : ∀ c, P c → c.MayBegin owner) :
    Walks Move P (beginStatement (owner.map (·.index)) : Op σ Unit)
      (fun _ c => c.MayBegin owner ∧ c.active = owner.map (·.index)) P := by
  refine .bind walks_checkUsable fun _ => ?_
  refine .modifying (fun c hc => .began owner hc.2 (hP c hc.1)) fun c hc => ⟨?_, rfl⟩
  have howner := hP c hc.1
  cases owner with
  | none => trivial
  | some k =>
      refine ⟨(has_begun c _ k).2 howner.1, ?_⟩
      rw [stateOf_begun _ howner.1]
      split
      · nofun
      · exact howner.2

/-- A request is submitted by whoever may, and is then the one submitted last. -/
theorem walks_submitFor (owner : Option Cursor) (r : Request) :
    Walks Move (fun c => c.MaySubmit owner) (submitFor (owner.map (·.index)) r : Op σ Unit)
      (fun _ c => c.MaySubmit owner ∧ lastSubmitter c.journal = some (owner.map (·.index)))
      (fun c => c.MaySubmit owner) := by
  have hsteady : Steady fun c : Connection σ =>
      c.MaySubmit owner ∧ lastSubmitter c.journal = some (owner.map (·.index)) :=
    (steady_maySubmit owner).and (steady_lastSubmitter _)
  refine .bind walks_checkUsable fun _ => ?_
  intro c ⟨howner, husable⟩
  show Ended Move _ _ c (call (ask r) (c.noted (owner.map (·.index)) r))
  have hmove := Move.submitted owner r husable howner
  generalize hd : c.noted (owner.map (·.index)) r = d at hmove ⊢
  have hkept : d.MaySubmit owner ∧ lastSubmitter d.journal = some (owner.map (·.index)) := by
    subst hd
    refine ⟨?_, congrArg (Option.map Prod.fst) (lastSubmission_submitted c.journal _ r)⟩
    cases owner with
    | none => exact howner
    | some k => exact howner
  have hsession : d.session = c.session := by
    subst hd
    rfl
  have hdUsable : d.fault? = none := by
    subst hd
    exact husable
  rw [call_of_usable _ hdUsable]
  rw [← hsession] at hmove
  exact (settle_received hsteady (ask r) c d hkept hmove).weaken (fun _ _ h => h) fun _ h => h.1

theorem walks_fetchRow (hP : Steady P) (reader : Option Cursor)
    (hreader : ∀ c, P c → c.MayFetch reader) :
    Walks Move P (call (Session.fetchRow (σ := σ))) (fun _ => P) P :=
  walks_call hP fun c hc husable => .fetched reader husable (hreader c hc)

theorem walks_nextResult (hP : Steady P) (reader : Option Cursor)
    (hreader : ∀ c, P c → c.MayRead reader) :
    Walks Move P (call (Session.nextResult (σ := σ))) (fun _ => P) P :=
  walks_call hP fun c hc husable => .advanced reader husable (hreader c hc)

/-- The connection has submitted the last request itself, and no cursor is active. -/
def OnItsOwn (c : Connection σ) : Prop := c.active = none ∧ lastSubmitter c.journal = some none

omit [Session σ] in
theorem steady_onItsOwn : Steady fun c : Connection σ => c.OnItsOwn :=
  steady_inactive.and (steady_lastSubmitter none)

theorem walks_beginOwn :
    Walks Move (fun c => c.AtRest) (beginStatement none : Op σ Unit) (fun _ c => c.active = none)
      (fun c => c.AtRest) :=
  (walks_beginStatement none fun _ _ => trivial).weaken (fun _ hc => hc) (fun _ _ hc => hc.2)
    fun _ hc => hc

theorem walks_submitOwn (r : Request) :
    Walks Move (fun c => c.active = none) (submitFor none r : Op σ Unit) (fun _ c => c.OnItsOwn)
      (fun c => c.active = none) :=
  walks_submitFor none r

/-- No cursor becomes active while the connection reads a response of its own. -/
theorem walks_drain :
    Walks Move (fun c => c.OnItsOwn) (drain : Op σ Unit) (fun _ c => c.OnItsOwn)
      (fun c => c.OnItsOwn) := by
  have hskipRow : Walks Move (fun c => c.OnItsOwn) (skipRow () : Op σ (ForInStep Unit))
      (fun _ c => c.OnItsOwn) (fun c => c.OnItsOwn) := by
    refine .bind (walks_fetchRow steady_onItsOwn none fun _ hc => hc.1) fun row => ?_
    cases row with
    | none => exact .pure fun _ hc => hc
    | some values => exact .pure fun _ hc => hc
  have hskipResult : Walks Move (fun c => c.OnItsOwn) (skipResult () : Op σ (ForInStep Unit))
      (fun _ c => c.OnItsOwn) (fun c => c.OnItsOwn) := by
    refine .bind (walks_nextResult steady_onItsOwn none fun _ hc => hc.1) fun columns => ?_
    match columns with
    | none => exact .pure fun _ hc => hc
    | some [] => exact .pure fun _ hc => hc
    | some (_ :: _) => exact .bind (.repeating (fun _ => hskipRow) ()) fun _ => .pure fun _ hc => hc
  exact .repeating (fun _ => hskipResult) ()

/-- Once a statement of the connection is over, no cursor is active. -/
theorem walks_execute (sql : String) :
    Walks Move (fun c => c.AtRest) (execute sql : Op σ Unit) (fun _ c => c.OnItsOwn)
      (fun c => c.AtRest) :=
  .bind walks_beginOwn fun _ =>
    .bind ((walks_submitOwn _).failing fun _ => atRest_of_inactive) fun _ =>
      walks_drain.failing fun _ hc => atRest_of_inactive hc.1

/-! ## Copying rows -/

/-- The columns of a table are asked for while no cursor is active. -/
theorem walks_tableColumns (table : String) :
    Moving (tableColumns table : Op σ (List Column)) := by
  have hrest : ∀ c : Connection σ, c.OnItsOwn → c.AtRest := fun _ hc => atRest_of_inactive hc.1
  have hsubmit := (walks_submitOwn (σ := σ) { sql := columnsStatement table }).failing
    fun _ => atRest_of_inactive
  have hnext := (walks_nextResult (σ := σ) steady_onItsOwn none fun _ hc => hc.1).failing hrest
  refine .bind walks_beginOwn fun _ => .bind hsubmit fun _ => .bind hnext fun columns => ?_
  refine .bind (walks_drain.failing hrest) fun _ => .afterGet fun _ => ?_
  exact Moving.of (fun c hc => hrest c hc.1) (walks_ofExcept _)

theorem walks_sendBatch (b : BulkCopy) (batch : List (List Value)) :
    Moving (sendBatch b batch : Op σ Int) := by
  refine .bind (walks_execute _) fun _ => ?_
  refine Moving.of (fun _ hc => atRest_of_inactive hc.1)
    (walks_call steady_onItsOwn fun c hc husable => ?_)
  exact .copied b.columns b.declarations batch husable hc.2

theorem walks_sendRows (b : BulkCopy) (number : Nat) (batch : List (List Value)) (saved : Int)
    (rows : List Value) :
    Moving (sendRows b number batch saved rows : Op σ Int) := by
  induction rows generalizing number batch saved with
  | nil =>
      unfold sendRows
      split
      · exact .pure fun _ hc => hc
      · exact .bind (walks_sendBatch b batch) fun _ => .pure fun _ hc => hc
  | cons row rest ih =>
      unfold sendRows
      refine .afterGet fun d => ?_
      refine .bind ((walks_announce steady_atRest _).strengthen fun _ hc => hc.1) fun values => ?_
      show Walks _ _ (if b.isFull (batch ++ [values]) then _ else _) _ _
      split
      · exact .bind (walks_sendBatch b _) fun count => ih _ _ _
      · exact ih _ _ _

theorem walks_bulkInsert (table : String) (rows batchSize : Value) (tableLock encode : Bool) :
    Moving (bulkInsert table rows batchSize tableLock encode : Op σ Int) := by
  refine .bind walks_checkUsable fun _ => .afterGet fun d => ?_
  show Walks _ _ (if d.bulkCopyEnabled then _ else _) _ _
  by_cases henabled : d.bulkCopyEnabled = true
  · rw [if_pos henabled]
    refine .bind (Q := fun _ c => c.AtRest)
      (.ofExcept (fun _ _ _ hc => hc.1.1) fun _ hc => hc.1.1) fun limit => ?_
    cases rows.items? with
    | none => exact .throwing fun _ hc => hc
    | some items =>
        refine .bind (walks_tableColumns table) fun columns => ?_
        refine .bind (walks_ofExcept _) fun declarations => ?_
        exact walks_sendRows _ _ _ _ _
  · rw [if_neg henabled]
    refine .bind (Q := fun _ _ => False) (.throwing fun _ hc => hc.1.1) fun _ => ?_
    exact fun _ hc => hc.elim

/-! ## Transactions and settings -/

/-- A statement that is only executed outside autocommit mode. -/
theorem walks_unlessAutocommit (sql : String) :
    Moving (do
      unless (← get).autocommit do execute sql : Op σ Unit) := by
  refine .afterGet fun d => ?_
  split
  · exact .pure fun _ hc => hc.1
  · exact (walks_execute sql).weaken (fun _ hc => hc.1) (fun _ _ hc => atRest_of_inactive hc.1)
      fun _ hc => hc

theorem walks_commit :
    Moving (commit : Op σ Unit) :=
  .bind walks_checkUsable fun _ => (walks_unlessAutocommit _).strengthen fun _ hc => hc.1

theorem walks_rollback :
    Moving (rollback : Op σ Unit) :=
  .bind walks_checkUsable fun _ => (walks_unlessAutocommit _).strengthen fun _ hc => hc.1

theorem walks_setUp (ansiDefaults : Bool) :
    Moving (setUp ansiDefaults : Op σ Unit) := by
  unfold setUp
  split
  · exact .bind (walks_execute _) fun _ => (walks_unlessAutocommit _).strengthen
      fun _ hc => atRest_of_inactive hc.1
  · exact walks_unlessAutocommit _

/-- The mode is only switched after the statement that switches it. -/
theorem walks_setAutocommit (value : Value) :
    Moving (setAutocommit value : Op σ Unit) := by
  refine .bind walks_checkUsable fun _ => ?_
  cases value with
  | bool wanted =>
      refine .afterGet fun d => ?_
      refine .bind ((walks_execute _).strengthen fun _ hc => hc.1.1) fun _ => ?_
      exact .modifying (fun _ hc => .modeSet _ hc.1) fun _ hc => atRest_of_inactive hc.1
  | _ => exact .throwing fun _ hc => hc.1

theorem walks_setTimeout (value : Value) :
    Moving (setTimeout value : Op σ Unit) := by
  refine .bind walks_checkUsable fun _ => ?_
  cases value with
  | int n =>
      show Walks _ _ (if 0 ≤ n ∧ n ≤ maxTimeout then _ else _) _ _
      split
      · exact .modifying (fun _ hc => .timeoutSet n hc.2) fun _ hc => hc.1
      · exact .throwing fun _ hc => hc.1
  | _ => exact .throwing fun _ hc => hc.1

theorem walks_useDatabase (value : Value) :
    Moving (useDatabase value : Op σ Unit) := by
  refine .bind walks_checkUsable fun _ => ?_
  cases value with
  | text name =>
      exact (walks_execute _).weaken (fun _ hc => hc.1) (fun _ _ hc => atRest_of_inactive hc.1)
        fun _ hc => hc
  | _ => exact .throwing fun _ hc => hc.1

theorem walks_checkOpen :
    Walks Move P (checkOpen : Op σ Unit) (fun _ c => P c ∧ c.isOpen = true) P := by
  intro c hc
  unfold checkOpen refuseIf closedFault?
  by_cases hopen : c.isOpen = true
  · rw [if_pos hopen]
    exact ⟨.refl, hc, hopen⟩
  · rw [if_neg hopen]
    exact ⟨.refl, hc⟩

theorem walks_close : Moving (close : Op σ Unit) :=
  .bind walks_checkOpen fun _ => .modifying (fun _ hc => .closed hc.2) fun _ _ =>
    atRest_of_inactive rfl

theorem walks_leave (failed : Bool) : Moving (leave failed : Op σ Unit) := by
  refine .afterGet fun d => ?_
  split
  · split
    · exact walks_close.strengthen fun _ hc => hc.1
    · exact .bind (walks_commit.strengthen fun _ hc => hc.1) fun _ => walks_close
  · exact .pure fun _ hc => hc.1

end TdsClient.Connection
