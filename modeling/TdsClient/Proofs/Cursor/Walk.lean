import TdsClient.Proofs.Connection.Walk

/-!
# The moves of a cursor's operations

A statement takes its cursor through four conditions. When it has begun the
cursor is idle; once its request is submitted the cursor reads the response;
then it has a result set or, at the end of the response, is idle again. An
error on the way leaves the cursor open and the active one, and as if the
statement had only begun once its result set is lost. So no operation ends
with a request halfway.

A fetch only goes to the session if its cursor has a result set. That it is
then the active one is the condition under which fetches are considered.

## Main results

* `walks_execute`, `walks_nextSet` — statements and results are made of moves.
-/

namespace TdsClient.Cursor

open Connection Op Journal

variable {σ α : Type} {k : Cursor}

/-! ## Conditions on a cursor -/

/-- A cursor that exists, and is the active one if it reads a response. -/
def Attached (k : Cursor) (c : Connection σ) : Prop :=
  c.Has k ∧ (isReading (c.stateOf k) = true → c.active = some k.index)

theorem steady_attached (k : Cursor) : Steady fun c : Connection σ => k.Attached c := by
  intro c c' hstates hactive _ h
  rw [Attached, has_iff, stateOf_eq, hstates, hactive]
  rwa [Attached, has_iff, stateOf_eq] at h

/-- A cursor that was not closed and is the active one. -/
def IsHolder (k : Cursor) (c : Connection σ) : Prop := c.IsOpen k ∧ c.active = some k.index

theorem isHolder_of_isIdle {c : Connection σ} (h : c.IsIdle k) : k.IsHolder c := by
  refine ⟨⟨h.1, ?_⟩, h.2.1⟩
  intro hclosed
  rcases h.2.2 with hstate | hstate
  · rw [hclosed] at hstate
    cases hstate
  · rw [hclosed] at hstate
    cases hstate

theorem isHolder_of_isReader {c : Connection σ} (h : c.IsReader k) : k.IsHolder c := by
  refine ⟨⟨h.1, ?_⟩, h.2.1⟩
  intro hclosed
  have hreading := h.2.2
  rw [hclosed] at hreading
  cases hreading

theorem not_hasResults_of_isIdle {c : Connection σ} (h : c.IsIdle k) :
    (k.recordIn c).state ≠ .hasResults := by
  intro hstate
  rcases h.2.2 with hidle | hidle
  · rw [stateOf, hstate] at hidle
    cases hidle
  · rw [stateOf, hstate] at hidle
    cases hidle

/-- A cursor that began the current statement and has no results of it. -/
def HasBegun (k : Cursor) (c : Connection σ) : Prop :=
  c.Has k ∧ c.active = some k.index ∧ c.stateOf k = .unused

theorem steady_hasBegun (k : Cursor) : Steady fun c : Connection σ => k.HasBegun c := by
  intro c c' hstates hactive _ h
  rw [HasBegun, has_iff, stateOf_eq, hstates, hactive]
  rwa [HasBegun, has_iff, stateOf_eq] at h

theorem HasBegun.isIdle {c : Connection σ} (h : k.HasBegun c) : c.IsIdle k :=
  ⟨h.1, h.2.1, .inl h.2.2⟩

theorem atRest_of_isIdle {c : Connection σ} (h : c.IsIdle k) : c.AtRest := by
  apply atRest_of_active h.2.1
  intro hexecuting
  rcases h.2.2 with hstate | hstate
  · rw [hexecuting] at hstate
    cases hstate
  · rw [hexecuting] at hstate
    cases hstate

theorem atRest_of_hasRows {c : Connection σ} (h : c.HasRows k) : c.AtRest := by
  apply atRest_of_active h.2.1
  rw [h.2.2]
  exact nofun

theorem isReader_of_hasRows {c : Connection σ} (h : c.HasRows k) : c.IsReader k := by
  refine ⟨h.1, h.2.1, ?_⟩
  rw [h.2.2]
  rfl

theorem hasRows_of_attached {c : Connection σ} (h : k.Attached c)
    (hstate : c.stateOf k = .hasResults) : c.HasRows k := by
  refine ⟨h.1, h.2 ?_, hstate⟩
  rw [hstate]
  rfl

/-- The state of a cursor after it was changed. -/
theorem stateOf_changed {c : Connection σ} (hk : c.Has k) (f : CursorRecord → CursorRecord) :
    (c.changed k f).stateOf k = (f (k.recordIn c)).state :=
  congrArg (·.state) (recordIn_modifyCursor_self hk f)

/-- A change that leaves no request of the cursor halfway leaves none at all. -/
theorem atRest_changed {c : Connection σ} (hk : c.Has k) (hc : c.AtRest)
    {f : CursorRecord → CursorRecord} (hf : (f (k.recordIn c)).state ≠ .executing) :
    (c.changed k f).AtRest := by
  intro j hj
  by_cases heq : k.index = j.index
  · rw [← eq_of_index heq, stateOf_changed hk]
    exact hf
  · have hrecord : j.recordIn (c.changed k f) = j.recordIn c := recordIn_modifyCursor_of_ne c heq f
    rw [stateOf, hrecord]
    exact hc j hj

variable [Session σ] {P : Connection σ → Prop}

/-! ## Checks and changes -/

omit [Session σ] in
theorem check_of_usable {c : Connection σ} (hstate : c.stateOf k ≠ .closed)
    (husable : c.fault? = none) : k.check c = .ok () c := by
  have hopen : (k.recordIn c).state ≠ .closed := hstate
  refine bind_eq_ok.2 ⟨_, _, rfl, ?_⟩
  rw [if_neg hopen]
  exact checkUsable_of_usable husable

theorem walks_check (k : Cursor) :
    Walks Move P (k.check : Op σ Unit)
      (fun _ c => P c ∧ c.stateOf k ≠ .closed ∧ c.fault? = none) P := by
  refine .afterLook fun r => ?_
  show Walks _ _ (if r.state = .closed then _ else _) _ _
  by_cases hclosed : r.state = .closed
  · rw [if_pos hclosed]
    refine .bind (Q := fun _ _ => False) (.throwing fun _ hc => hc.1) fun _ => ?_
    exact fun _ hc => hc.elim
  · rw [if_neg hclosed]
    refine walks_checkUsable.weaken (fun _ hc => hc) (fun _ c hc => ?_) fun _ hc => hc.1
    refine ⟨hc.1.1, ?_, hc.2⟩
    rw [hc.1.2] at hclosed
    exact hclosed

theorem walks_checkResults (k : Cursor) :
    Walks Move P (k.checkResults : Op σ Unit) (fun _ => P) P := by
  refine .bind (walks_check k) fun _ => .afterLook fun r => ?_
  split
  · exact .throwing fun _ hc => hc.1.1
  · exact .pure fun _ hc => hc.1.1

omit [Session σ] in
theorem states_changed (c : Connection σ) (k : Cursor) {f : CursorRecord → CursorRecord}
    (hf : ∀ r, (f r).state = r.state) : (c.changed k f).states = c.states := by
  unfold states changed modifyCursor
  apply List.ext_getElem?
  intro j
  rw [List.getElem?_map, List.getElem?_map, List.getElem?_modify]
  by_cases hj : k.index = j
  · cases c.cursors[j]? with
    | none => rfl
    | some r => simp [hj, hf]
  · simp [hj]

/-- A change that leaves the state of a cursor alone keeps every steady condition. -/
theorem walks_change (hP : Steady P) (f : CursorRecord → CursorRecord)
    (hf : ∀ r, (f r).state = r.state) (hmove : ∀ c, P c → Move c (c.changed k f)) :
    Walks Move P (k.change f) (fun _ => P) P :=
  .modifying hmove fun c hc => hP c _ (states_changed c k hf) rfl rfl hc

/-- The result set is only lost by a cursor that is open, and then nothing is left halfway. -/
theorem walks_protect {pre : Connection σ → Prop} {post : α → Connection σ → Prop}
    {op : Op σ α} (h : Walks Move pre op post fun c => k.IsHolder c) :
    Walks Move pre (k.protect op) post fun c => k.HasBegun c := by
  refine .catching h fun e => ?_
  refine .bind (Q := fun _ c => k.HasBegun c)
    (.modifying (fun _ hc => .failed k hc.1) fun c hc => ?_) fun _ => .throwing fun _ hc => hc
  exact ⟨(has_modifyCursor c _ _ k).2 hc.1.1, hc.2, stateOf_changed hc.1.1 _⟩

theorem walks_close (k : Cursor) :
    Walks Move (fun c => c.Has k ∧ c.AtRest) (k.close : Op σ Unit) (fun _ c => c.AtRest)
      (fun c => c.AtRest) := by
  refine .afterLook fun r => ?_
  show Walks _ _ (if r.state = .closed then _ else _) _ _
  by_cases hclosed : r.state = .closed
  · rw [if_pos hclosed]
    exact .pure fun _ hc => hc.1.2
  · rw [if_neg hclosed]
    refine .bind (Q := fun _ c => c.stateOf k = .closed ∧ c.AtRest)
      (.modifying (fun c hc => ?_) fun c hc => ?_)
      fun _ => .modifying (fun _ hc => .released k hc.1) fun c hc => ?_
    · refine .shut k ⟨hc.1.1, ?_⟩
      rw [hc.2] at hclosed
      exact hclosed
    · exact ⟨stateOf_changed hc.1.1 _, atRest_changed hc.1.1 hc.1.2 nofun⟩
    · show (c.release k.index).AtRest
      unfold release
      split
      · exact atRest_of_inactive rfl
      · exact hc.2

/-! ## Executing -/

omit [Session σ] in
/-- A cursor and a connection that can be used begin a statement. -/
theorem begin_of_usable {c : Connection σ} (hstate : c.stateOf k ≠ .closed)
    (husable : c.fault? = none) :
    k.begin c = .ok () ((c.begun (some k.index)).changed k (·.begin)) := by
  have hstatement : beginStatement (some k.index) c = .ok () (c.begun (some k.index)) :=
    bind_eq_ok.2 ⟨_, _, checkUsable_of_usable husable, rfl⟩
  exact bind_eq_ok.2 ⟨_, _, check_of_usable hstate husable, bind_eq_ok.2 ⟨_, _, hstatement, rfl⟩⟩

theorem walks_begin (k : Cursor) :
    Walks Move (fun c => c.Has k ∧ c.AtRest) (k.begin : Op σ Unit) (fun _ c => k.HasBegun c)
      (fun c => c.AtRest) := by
  have hcheck : Walks Move (fun c => c.Has k ∧ c.AtRest) (k.check : Op σ Unit)
      (fun _ c => c.MayBegin (some k) ∧ c.AtRest) (fun c => c.AtRest) :=
    (walks_check k).weaken (fun _ hc => hc) (fun _ _ hc => ⟨⟨hc.1.1, hc.2.1⟩, hc.1.2⟩)
      fun _ hc => hc.2
  have hbegin := (walks_beginStatement (σ := σ) (P := fun c => c.MayBegin (some k) ∧ c.AtRest)
    (some k) fun _ hc => hc.1).failing fun _ hc => hc.2
  refine .bind hcheck fun _ => .bind hbegin fun _ => ?_
  refine .modifying (fun _ hc => .prepared k hc.1 hc.2) fun c hc => ?_
  exact ⟨(has_modifyCursor c _ _ k).2 hc.1.1, hc.2, stateOf_changed hc.1.1 _⟩

theorem walks_submit (k : Cursor) (r : Request) :
    Walks Move (fun c => c.IsIdle k) (k.submit r : Op σ Unit) (fun _ c => c.IsReader k)
      (fun c => k.IsHolder c) := by
  have hsubmit := (walks_submitFor (σ := σ) (some k) r).failing fun _ hc => isHolder_of_isIdle hc
  refine .bind hsubmit fun _ => .afterGet fun d => ?_
  refine .modifying (fun c hc => .sent k _ hc.1) fun c hc => ?_
  refine ⟨(has_modifyCursor c _ _ k).2 hc.1.1.1, hc.1.1.2.1, ?_⟩
  rw [stateOf, recordIn_modifyCursor_self hc.1.1.1]
  rfl

theorem walks_takeRowCount (hP : Steady P) (hreader : ∀ c, P c → c.IsReader k) :
    Walks Move P (k.takeRowCount : Op σ Unit) (fun _ => P) P := by
  refine .afterGet fun d => ?_
  have hchange := walks_change hP (fun r => { r with rowCount := Session.rowCount d.session })
    (fun _ => rfl) fun c hc => .counted k _ (hreader c hc)
  exact hchange.strengthen fun _ hc => hc.1

theorem walks_finish (k : Cursor) :
    Walks Move (fun c => c.IsReader k) (k.finish : Op σ Unit) (fun _ c => c.IsIdle k)
      (fun c => c.IsReader k) := by
  refine .afterGet fun d => .modifying (fun c hc => .finished k _ _ hc.1) fun c hc => ?_
  refine ⟨(has_modifyCursor c _ _ k).2 hc.1.1, hc.1.2.1, ?_⟩
  rw [stateOf, recordIn_modifyCursor_self hc.1.1]
  exact .inr rfl

theorem walks_reachColumns (k : Cursor) (columns : List Column) :
    Walks Move (fun c => c.IsReader k) (k.reachColumns columns : Op σ Unit)
      (fun _ c => c.HasRows k) (fun c => c.IsReader k) := by
  refine .afterGet fun d => .bind (Q := fun _ c => c.IsReader k)
    (.ofExcept (fun _ _ _ hc => hc.1) fun _ hc => hc.1)
    fun normalized => .modifying (fun c hc => .reached k _ hc) fun c hc => ?_
  refine ⟨(has_modifyCursor c _ _ k).2 hc.1, hc.2.1, ?_⟩
  rw [stateOf, recordIn_modifyCursor_self hc.1]
  rfl

/-- Going on leads to a result set, or to the end of the response. -/
theorem walks_advance (k : Cursor) :
    Walks Move (fun c => c.IsReader k) (k.advance : Op σ Bool)
      (fun found c => if found then c.HasRows k else c.IsIdle k) (fun c => c.IsReader k) := by
  refine .looping (I := fun _ c => c.IsReader k) (fun _ => ?_) false
  refine .bind (walks_nextResult (steady_isReader k) (some k) fun _ hc => hc) fun columns => ?_
  cases columns with
  | none => exact .bind (walks_finish k) fun _ => .pure fun _ hc => hc
  | some columns =>
      refine .bind (walks_takeRowCount (steady_isReader k) fun _ hc => hc) fun _ => ?_
      cases columns with
      | nil => exact .pure fun _ hc => hc
      | cons column rest => exact .bind (walks_reachColumns k _) fun _ => .pure fun _ hc => hc

/-! ## Reading rows -/

section rows

variable (hP : Steady P) (hrows : ∀ c, P c → c.stateOf k = .hasResults → c.HasRows k)
include hP hrows

/-- A row is fetched by a cursor with a result set only. -/
theorem walks_readRow : Walks Move P (k.readRow : Op σ (Option (List Value))) (fun _ => P) P := by
  refine .afterLook fun r => ?_
  show Walks _ _ (if r.state ≠ .hasResults then _ else _) _ _
  by_cases hstate : r.state = .hasResults
  · rw [if_neg (not_not_intro hstate)]
    have hsteady : Steady fun c : Connection σ => P c ∧ c.HasRows k := hP.and (steady_hasRows k)
    have hstart : ∀ c, P c ∧ r = k.recordIn c → P c ∧ c.HasRows k := by
      intro c hc
      rw [hc.2] at hstate
      exact ⟨hc.1, hrows c hc.1 hstate⟩
    refine Walks.weaken ?_ hstart (fun _ c (hc : P c ∧ c.HasRows k) => hc.1)
      fun c (hc : P c ∧ c.HasRows k) => hc.1
    refine .bind (walks_fetchRow hsteady (some k) fun _ hc => hc.2) fun row => ?_
    cases row with
    | none =>
        refine .bind (walks_takeRowCount hsteady fun _ hc => isReader_of_hasRows hc.2) fun _ => ?_
        exact .pure fun _ hc => hc
    | some values =>
        refine .afterLook fun known => ?_
        cases known.conversions with
        | none => exact .throwing fun _ hc => hc.1
        | some conversions =>
            have hcount := walks_change hsteady (·.countRow) (fun _ => rfl) fun _ hc =>
              .rowRead k hc.2
            refine .bind (hcount.strengthen fun _ hc => hc.1) fun _ => ?_
            exact .bind (walks_ofExcept _) fun _ => .pure fun _ hc => hc
  · rw [if_pos hstate]
    exact .pure fun _ hc => hc.1

theorem walks_readRows (wanted : Nat → Except CompareError Bool) :
    Walks Move P (k.readRows wanted : Op σ (List (List Value))) (fun _ => P) P := by
  refine .repeating (fun rows => ?_) []
  refine .bind (walks_ofExcept _) fun more => ?_
  cases more with
  | false => exact .pure fun _ hc => hc
  | true =>
      refine .bind (walks_readRow hP hrows) fun row => ?_
      cases row with
      | none => exact .pure fun _ hc => hc
      | some values => exact .pure fun _ hc => hc

theorem walks_discardRows : Walks Move P (k.discardRows : Op σ Unit) (fun _ => P) P :=
  .bind (walks_readRows hP hrows _) fun _ => .pure fun _ hc => hc

end rows

/-- At the end of the response the cursor is idle again. -/
theorem walks_discardResults (k : Cursor) :
    Walks Move (fun c => c.IsReader k) (k.discardResults : Op σ Unit) (fun _ c => c.IsIdle k)
      (fun c => c.IsReader k) := by
  refine .looping (I := fun _ c => c.IsReader k) (fun _ => ?_) ()
  refine .bind (walks_advance k) fun found => ?_
  cases found with
  | false => exact .pure fun _ hc => hc
  | true =>
      have hdiscard := (walks_discardRows (σ := σ) (steady_hasRows k) fun _ hc _ => hc).failing
        fun _ hc => isReader_of_hasRows hc
      exact .bind hdiscard fun _ => .pure fun _ hc => isReader_of_hasRows hc

/-! ## Statements -/

/-- A request leads to its first result set, or to the end of the response. -/
theorem walks_run (k : Cursor) (r : Request) :
    Walks Move (fun c => c.IsIdle k) (k.run r : Op σ Unit) (fun _ c => c.IsIdle k ∨ c.HasRows k)
      (fun c => k.HasBegun c) := by
  refine walks_protect ?_
  refine .bind (walks_submit k r) fun _ =>
    .bind ((walks_advance k).failing fun _ hc => isHolder_of_isReader hc) fun found => ?_
  cases found with
  | false => exact .pure fun _ hc => .inl hc
  | true => exact .pure fun _ hc => .inr hc

omit [Session σ] in
theorem atRest_of_run {c : Connection σ} (h : c.IsIdle k ∨ c.HasRows k) : c.AtRest :=
  h.elim atRest_of_isIdle atRest_of_hasRows

omit [Session σ] in
/-- After a request, the state of the cursor tells whether there is a result set. -/
theorem hasRows_of_run {c : Connection σ} (h : c.IsIdle k ∨ c.HasRows k)
    (hstate : (k.recordIn c).state = .hasResults) : c.HasRows k :=
  h.resolve_left fun hidle => not_hasResults_of_isIdle hidle hstate

/-- Parameters are bound after the statement has begun. -/
theorem walks_protect_announce (k : Cursor) (x : Reported α) :
    Walks Move (fun c => k.HasBegun c) (k.protect (announce x) : Op σ α)
      (fun _ c => k.HasBegun c) (fun c => k.HasBegun c) :=
  walks_protect ((walks_announce (steady_hasBegun k) x).failing fun _ hc =>
    isHolder_of_isIdle hc.isIdle)

/-- Each response is read to its end before the next request is submitted. -/
theorem walks_runAll (k : Cursor) (total : Int) (reliable : Bool) (requests : List Request) :
    Walks Move (fun c => c.IsIdle k) (k.runAll total reliable requests : Op σ (Int × Bool))
      (fun _ c => c.IsIdle k) (fun c => k.IsHolder c) := by
  induction requests generalizing total reliable with
  | nil => exact .pure fun _ hc => hc
  | cons request rest ih =>
      refine .bind (walks_submit k request) fun _ => .afterLook fun r => ?_
      refine .bind ((walks_discardResults k).weaken (fun _ hc => hc.1) (fun _ _ hc => hc)
        fun _ hc => isHolder_of_isReader hc) fun _ => .afterLook fun r => ?_
      exact (ih _ _).strengthen fun _ hc => hc.1

section executing

/-! A statement raises errors before it has begun, of which `F` holds, and afterwards. -/

variable {F : Connection σ → Prop}
  (hbegin : Walks Move P (k.begin : Op σ Unit) (fun _ c => k.HasBegun c) F)
  (hbegun : ∀ c, k.HasBegun c → F c)
include hbegin hbegun

theorem walks_execute (sql : String) (parameters : Value) :
    Walks Move P (k.execute sql parameters : Op σ Unit) (fun _ c => c.AtRest) F := by
  refine .bind hbegin fun _ => .afterGet fun d => ?_
  refine .bind (((walks_protect_announce k _).failing hbegun).strengthen fun _ hc => hc.1)
    fun request => ?_
  exact (walks_run k request).weaken (fun _ hc => hc.isIdle) (fun _ _ => atRest_of_run) hbegun

theorem walks_executeMany (sql : String) (items : Value) :
    Walks Move P (k.executeMany sql items : Op σ Unit) (fun _ c => c.AtRest) F := by
  refine .bind hbegin fun _ => ?_
  cases items.items? with
  | none => exact .throwing hbegun
  | some items =>
      refine .afterGet fun d => ?_
      refine .bind (Q := fun _ c => k.HasBegun c)
        (.ofExcept (fun _ _ _ hc => hc.1) fun c hc => hbegun c hc.1) fun _ => ?_
      refine .bind ((walks_announce (steady_hasBegun k) _).failing hbegun) fun requests => ?_
      refine .bind (((walks_protect (walks_runAll k _ _ _)).failing hbegun).strengthen
        fun _ hc => hc.isIdle) fun counted => ?_
      exact .modifying (fun _ hc => .totalled k _ _ hc) fun c hc =>
        steady_atRest c _ (states_changed c k fun _ => rfl) rfl rfl (atRest_of_isIdle hc)

theorem walks_callProcedure (procedure : String) (arguments : Value)
    (hrows : ∀ c : Connection σ, c.HasRows k → F c) :
    Walks Move P (k.callProcedure procedure arguments : Op σ Value) (fun _ c => c.AtRest) F := by
  refine .bind hbegin fun _ => .afterGet fun d => ?_
  refine .bind (((walks_protect_announce k _).failing hbegun).strengthen fun _ hc => hc.1)
    fun request => ?_
  refine .bind (((walks_run k request).strengthen fun _ hc => hc.isIdle).failing hbegun)
    fun _ => .afterLook fun r => ?_
  split
  next hstate =>
    have hread : ∀ c : Connection σ,
        (c.IsIdle k ∨ c.HasRows k) ∧ r = k.recordIn c → c.HasRows k := by
      intro c hc
      rw [hc.2] at hstate
      exact hasRows_of_run hc.1 hstate
    split
    · refine .bind ((walks_warn (steady_hasRows k) _).weaken hread (fun _ _ hc => hc) hrows)
        fun _ => .pure fun _ hc => atRest_of_hasRows hc
    · exact .pure fun _ hc => atRest_of_run hc.1
  · exact .afterGet fun _ => .pure fun _ hc => atRest_of_run hc.1.1

end executing

/-! ## Fetching -/

theorem walks_columnNames (k : Cursor) :
    Walks Move P (k.columnNames : Op σ (List String)) (fun _ => P) P := by
  refine .afterLook fun r => ?_
  split
  · exact .pure fun _ hc => hc.1
  · exact .throwing fun _ hc => hc.1

section fetching

variable (hP : Steady P) (hattached : ∀ c, P c → k.Attached c)
include hP hattached

theorem walks_fetchRows (wanted : Nat → Except CompareError Bool) :
    Walks Move P (k.readRows wanted : Op σ (List (List Value))) (fun _ => P) P :=
  walks_readRows hP (fun c hc => hasRows_of_attached (hattached c hc)) wanted

theorem walks_fetchOne : Walks Move P (k.fetchOne : Op σ (Option Row)) (fun _ => P) P := by
  refine .bind (walks_checkResults k) fun _ => ?_
  refine .bind (walks_readRow hP fun c hc => hasRows_of_attached (hattached c hc)) fun row => ?_
  cases row with
  | none => exact .pure fun _ hc => hc
  | some values => exact .bind (walks_columnNames k) fun _ => .pure fun _ hc => hc

theorem walks_fetchWhile (wanted : Nat → Except CompareError Bool) :
    Walks Move P (k.fetchWhile wanted : Op σ RowList) (fun _ => P) P :=
  .bind (walks_fetchRows hP hattached wanted) fun _ => .bind (walks_columnNames k) fun _ =>
    .pure fun _ hc => hc

theorem walks_fetchMany (size : Value) :
    Walks Move P (k.fetchMany size : Op σ RowList) (fun _ => P) P :=
  .bind (walks_checkResults k) fun _ => .afterLook fun _ =>
    (walks_fetchWhile hP hattached _).strengthen fun _ hc => hc.1

theorem walks_fetchAll : Walks Move P (k.fetchAll : Op σ RowList) (fun _ => P) P :=
  .bind (walks_checkResults k) fun _ => walks_fetchWhile hP hattached _

theorem walks_iterate (limit : Option Nat) :
    Walks Move P (k.iterate limit : Op σ (List Row)) (fun _ => P) P :=
  .bind (walks_checkResults k) fun _ => .bind (walks_fetchRows hP hattached _) fun _ =>
    .bind (walks_columnNames k) fun _ => .pure fun _ hc => hc

end fetching

/-- Only a cursor that reads a response goes on in it. -/
theorem walks_nextSet (k : Cursor) :
    Walks Move (fun c => k.Attached c ∧ c.AtRest) (k.nextSet : Op σ Bool) (fun _ c => c.AtRest)
      (fun c => c.AtRest) := by
  refine .bind ((walks_check k).weaken (fun _ hc => hc) (fun _ _ hc => hc.1) fun _ hc => hc.2)
    fun _ => .afterLook fun r => ?_
  by_cases hreading : isReading r.state = true
  · rw [if_pos hreading]
    have hstart : ∀ c : Connection σ, (k.Attached c ∧ c.AtRest) ∧ r = k.recordIn c →
        c.IsReader k := by
      intro c hc
      rw [hc.2] at hreading
      exact ⟨hc.1.1.1, hc.1.1.2 hreading, hreading⟩
    refine ((walks_protect (k := k) ?_).strengthen hstart).failing fun _ hc =>
      atRest_of_isIdle hc.isIdle
    have hrows : ∀ c : Connection σ, c.IsReader k → c.stateOf k = .hasResults → c.HasRows k :=
      fun c hc hstate => ⟨hc.1, hc.2.1, hstate⟩
    have hdiscard := (walks_discardRows (steady_isReader k) hrows).failing
      fun _ hc => isHolder_of_isReader hc
    have hadvance := (walks_advance (σ := σ) k).failing fun _ hc => isHolder_of_isReader hc
    refine .bind hdiscard fun _ => .bind hadvance fun found => ?_
    cases found with
    | false => exact .pure fun _ hc => atRest_of_isIdle hc
    | true =>
        have hunnumbered := walks_change (k := k) (steady_hasRows (σ := σ) k)
          (fun r => { r with rowNumber := none }) (fun _ => rfl) fun _ hc => .unnumbered k hc
        refine .bind (hunnumbered.failing fun _ hc => isHolder_of_isReader (isReader_of_hasRows hc))
          fun _ => .pure fun _ hc => atRest_of_hasRows hc
  · rw [if_neg hreading]
    exact .pure fun _ hc => hc.1.2

end TdsClient.Cursor
