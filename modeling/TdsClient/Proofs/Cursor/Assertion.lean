import TdsClient.Proofs.Cursor.Coherence
import TdsClient.Proofs.Isolation

/-!
# Reading never lacks what it needs

To return rows a cursor needs the conversions and the names of its columns.
Nothing in the operations checks that it has them: an error says so if they
are missing. It is never raised, since a cursor has them as long as it has a
result set, and reading rows leaves them alone.

## Main definitions

* `CursorRecord.Readable` — a result set has what reading it needs.
* `Error.IsOrdinary` — any error but this one.

## Main results

* `meets_readRow`, `meets_advance` — the parts of the fetches.
* `cursors_coherent` — in every run what the cursors know fits together, and
  no fetch lacks anything.
-/

namespace TdsClient

/-- A result set, if there is one, has what reading it needs. -/
structure CursorRecord.Readable (r : CursorRecord) : Prop where
  described : r.description.isSome = true → r.state = .hasResults
  named : r.state = .hasResults → r.columnNames.isSome = true
  converted : r.state = .hasResults → r.conversions.isSome = true

theorem CursorRecord.Coherent.readable {r : CursorRecord} (h : r.Coherent) : r.Readable :=
  ⟨h.described.1, h.isSome_columnNames.2, h.isSome_conversions.2⟩

/-- The error does not say that a result set lacks something. -/
def Error.IsOrdinary (e : Error) : Prop := e ≠ .brokenResult

/-! ## Errors of what is computed -/

/-- Of two steps that fail together one fails. -/
theorem error_of_bind {α β ε : Type} {x : Except ε α} {f : α → Except ε β} {e : ε}
    (h : x >>= f = .error e) : x = .error e ∨ ∃ a, x = .ok a ∧ f a = .error e := by
  cases x with
  | error e' =>
      cases h
      exact .inl rfl
  | ok a => exact .inr ⟨a, rfl, h⟩

/-- If not all items can be mapped, one of them cannot. -/
theorem exists_of_mapM_error {α β ε : Type} {f : α → Except ε β} {items : List α} {e : ε}
    (h : items.mapM f = .error e) : ∃ item ∈ items, f item = .error e := by
  induction items with
  | nil => cases h
  | cons item rest ih =>
      rw [List.mapM_cons] at h
      rcases error_of_bind h with hitem | ⟨_, _, h⟩
      · exact ⟨item, List.mem_cons_self, hitem⟩
      · rcases error_of_bind h with hrest | ⟨_, _, hdone⟩
        · obtain ⟨other, hmem, hother⟩ := ih hrest
          exact ⟨other, List.mem_cons_of_mem _ hmem, hother⟩
        · cases hdone

theorem ordinary_of_normalize {version : Version} {columns : List Column} {e : Error}
    (h : columns.mapM (Column.normalize version) = .error e) : e.IsOrdinary := by
  obtain ⟨column, _, hcolumn⟩ := exists_of_mapM_error h
  unfold Column.normalize at hcolumn
  split at hcolumn
  · cases hcolumn
    exact nofun
  · cases hcolumn

theorem ordinary_of_conversion {conversion : Column.Conversion} {value : Value} {e : Error}
    (h : conversion.apply value = .error e) : e.IsOrdinary := by
  unfold Column.Conversion.apply at h
  split at h
  · cases h
  · cases h
  · cases h
  · split at h
    · cases h
    · cases h
      exact nofun

theorem ordinary_of_convertRow {conversions : List (Option Column.Conversion)}
    {values : List Value} {e : Error} (h : Column.convertRow conversions values = .error e) :
    e.IsOrdinary := by
  fun_induction Column.convertRow conversions values with
  | case1 values => cases h
  | case2 rest value values ih =>
      rcases error_of_bind h with hrest | ⟨_, _, hdone⟩
      · exact ih hrest
      · cases hdone
  | case3 conversion rest value values ih =>
      rcases error_of_bind h with hvalue | ⟨_, _, h⟩
      · exact ordinary_of_conversion hvalue
      · rcases error_of_bind h with hrest | ⟨_, _, hdone⟩
        · exact ih hrest
        · cases hdone
  | case4 rest hrest hshort =>
      cases h
      exact nofun
  | case5 rest hrest hshort => cases h

/-- A comparison that fails is a misuse. -/
theorem ordinary_of_comparison {x : Except CompareError Bool} {e : Error}
    (h : (x.mapError fun cause => Error.misuse (.comparison cause)) = .error e) :
    e.IsOrdinary := by
  cases x with
  | error cause =>
      cases h
      exact nofun
  | ok more => cases h

open Connection Op Cursor

variable {σ α : Type} {k : Cursor} {P : Connection σ → Prop}

/-- An operation that keeps a condition and, if it fails, does not lack anything. -/
abbrev Op.Keeps (P : Connection σ → Prop) (op : Op σ α) : Prop :=
  Meets P op (fun _ => P) fun e _ => e.IsOrdinary

/-! ## Uses of the session -/

namespace Connection

/-- A condition on the cursors alone. -/
def OnCursors (P : Connection σ → Prop) : Prop := ∀ c c', c'.cursors = c.cursors → P c → P c'

theorem keeps_issueAll (hP : OnCursors P) (ws : List Warning) : Keeps P (issueAll ws) := by
  induction ws with
  | nil => exact .pure fun _ hc => hc
  | cons w rest ih =>
      refine .bind (.afterGet fun d => ?_) fun _ => ih
      show Meets _ (if d.escalates then _ else _) _ _
      split
      · exact .throwing fun _ _ => nofun
      · exact .modifying fun c hc => hP c _ rfl hc.1

theorem keeps_settle (hP : OnCursors P) (d : Delivery α) : Keeps P (settle d) := by
  unfold settle
  cases d.result with
  | ok a =>
      refine .bind (Q := fun _ => P) ?_ fun _ => .pure fun _ hc => hc
      unfold report
      cases Message.worst? d.messages with
      | some m => exact .throwing fun _ _ => nofun
      | none => exact keeps_issueAll hP _
  | error failure =>
      cases failure with
      | rejected text errorClass =>
          refine .throwing fun _ _ => ?_
          unfold rejection
          split
          · exact nofun
          · exact nofun
      | lost text timedOut =>
          exact .bind (Q := fun _ => P) (.modifying fun c hc => hP c _ rfl hc) fun _ =>
            .throwing fun _ _ => nofun
      | badData text => exact .throwing fun _ _ => nofun
      | unexpected kind => exact .throwing fun _ _ => nofun

theorem keeps_checkUsable : Keeps P (checkUsable : Op σ Unit) := by
  intro c hc
  unfold checkUsable refuseIf
  cases c.fault? with
  | none => exact hc
  | some fault => exact nofun

theorem keeps_call (hP : OnCursors P) (work : σ → Delivery α × σ) : Keeps P (call work) := by
  refine .bind keeps_checkUsable fun _ => .afterGet fun d => ?_
  refine .bind (Q := fun _ => P) (.modifying fun c hc => hP c _ rfl hc.1) fun _ => ?_
  exact keeps_settle hP _

end Connection

/-! ## Fetches -/

namespace Cursor

theorem keeps_check : Keeps P (k.check : Op σ Unit) := by
  refine .afterLook fun r => ?_
  show Meets _ (if r.state = .closed then _ else _) _ _
  split
  · exact .bind (Q := fun _ => P) (.throwing fun _ _ => nofun) fun _ => keeps_checkUsable
  · exact keeps_checkUsable.strengthen fun _ hc => hc.1

/-- A condition on the result set of a cursor alone. -/
def OnSet (k : Cursor) (P : Connection σ → Prop) : Prop :=
  ∀ c c', (k.recordIn c).SameSet (k.recordIn c') → P c → P c'

theorem OnSet.onCursors (hP : k.OnSet P) : OnCursors P := by
  intro c c' hcursors hc
  have hsame : k.recordIn c' = k.recordIn c := by
    unfold recordIn
    rw [hcursors]
  refine hP c c' ?_ hc
  rw [hsame]
  exact ⟨rfl, rfl, rfl, rfl⟩

theorem onSet_readable (k : Cursor) : k.OnSet fun c : Connection σ => (k.recordIn c).Readable := by
  intro c c' hsame h
  refine ⟨?_, ?_, ?_⟩
  · rw [hsame.description, hsame.state]
    exact h.described
  · rw [hsame.names, hsame.state]
    exact h.named
  · rw [hsame.conversions, hsame.state]
    exact h.converted

theorem OnSet.hasResults (hP : k.OnSet P) :
    k.OnSet fun c => P c ∧ (k.recordIn c).state = .hasResults := by
  intro c c' hsame hc
  exact ⟨hP c c' hsame hc.1, hsame.state.trans hc.2⟩

theorem keeps_change (hP : k.OnSet P) {f : CursorRecord → CursorRecord}
    (hf : ∀ r : CursorRecord, r.SameSet (f r)) : Keeps P (k.change f) := by
  refine .modifying fun c hc => hP c _ ?_ hc
  rcases recordIn_modifyCursor_or c k.index k f with hsame | ⟨_, hchanged⟩
  · rw [hsame]
    exact ⟨rfl, rfl, rfl, rfl⟩
  · rw [hchanged]
    exact hf _

variable [Session σ]

theorem keeps_takeRowCount (hP : k.OnSet P) : Keeps P (k.takeRowCount : Op σ Unit) :=
  .afterGet fun d =>
    (keeps_change hP (f := fun r => { r with rowCount := Session.rowCount d.session }) fun _ =>
      ⟨rfl, rfl, rfl, rfl⟩).strengthen fun _ hc => hc.1

/-- The conversions are there when a row is to be converted. -/
theorem keeps_readRow (hP : k.OnSet P) (hreadable : ∀ c, P c → (k.recordIn c).Readable) :
    Keeps P (k.readRow : Op σ (Option (List Value))) := by
  refine .afterLook fun r => ?_
  show Meets _ (if r.state ≠ .hasResults then _ else _) _ _
  by_cases hstate : r.state = .hasResults
  · rw [if_neg (not_not_intro hstate)]
    have hset := hP.hasResults
    refine Meets.weaken (?_ : Keeps (fun c => P c ∧ (k.recordIn c).state = .hasResults) _)
      (fun c hc => ?_) (fun _ _ hc => hc.1) fun _ _ he => he
    · refine .bind (keeps_call hset.onCursors _) fun row => ?_
      cases row with
      | none => exact .bind (keeps_takeRowCount hset) fun _ => .pure fun _ hc => hc
      | some values =>
          refine .afterLook fun known => ?_
          cases hknown : known.conversions with
          | none =>
              refine .throwing fun c hc => ?_
              have hconverted := (hreadable c hc.1.1).converted hc.1.2
              rw [← hc.2, hknown] at hconverted
              cases hconverted
          | some conversions =>
              have hcount : Keeps (fun c => P c ∧ (k.recordIn c).state = .hasResults)
                  (k.change (·.countRow)) := keeps_change hset fun _ => ⟨rfl, rfl, rfl, rfl⟩
              refine .bind (hcount.strengthen fun _ hc => hc.1) fun _ => ?_
              refine .bind (Q := fun _ c => P c ∧ (k.recordIn c).state = .hasResults)
                (.ofExcept (fun _ _ _ hc => hc) fun _ _ he _ => ordinary_of_convertRow he)
                fun _ => .pure fun _ hc => hc
    · rw [hc.2] at hstate
      exact ⟨hc.1, hstate⟩
  · rw [if_pos hstate]
    exact .pure fun _ hc => hc.1

theorem keeps_readRows (hP : k.OnSet P) (hreadable : ∀ c, P c → (k.recordIn c).Readable)
    (wanted : Nat → Except CompareError Bool) :
    Keeps P (k.readRows wanted : Op σ (List (List Value))) := by
  refine .repeating (fun rows => ?_) []
  refine .bind (Q := fun _ => P)
    (.ofExcept (fun _ _ _ hc => hc) fun _ _ he _ => ordinary_of_comparison he) fun more => ?_
  cases more with
  | false => exact .pure fun _ hc => hc
  | true =>
      refine .bind (keeps_readRow hP hreadable) fun row => ?_
      cases row with
      | none => exact .pure fun _ hc => hc
      | some values => exact .pure fun _ hc => hc

/-- Nothing is needed to go on to the next result. -/
theorem keeps_advance (k : Cursor) : Keeps (fun _ => True) (k.advance : Op σ Bool) := by
  have hcursors : OnCursors fun _ : Connection σ => True := fun _ _ _ _ => trivial
  have hset : k.OnSet fun _ : Connection σ => True := fun _ _ _ _ => trivial
  refine .repeating (fun _ => ?_) false
  refine .bind (keeps_call hcursors _) fun columns => ?_
  cases columns with
  | none =>
      exact .bind (Q := fun _ _ => True) (.afterGet fun _ => .modifying fun _ _ => trivial)
        fun _ => .pure fun _ _ => trivial
  | some columns =>
      refine .bind (keeps_takeRowCount hset) fun _ => ?_
      cases columns with
      | nil => exact .pure fun _ _ => trivial
      | cons column rest =>
          have hnormalize : Keeps (fun _ => True) (k.reachColumns (column :: rest) : Op σ Unit) :=
            .afterGet fun _ => .bind (Q := fun _ _ => True)
              (.ofExcept (fun _ _ _ _ => trivial) fun _ _ he _ => ordinary_of_normalize he)
              fun _ => .modifying fun _ _ => trivial
          exact .bind hnormalize fun _ => .pure fun _ _ => trivial

omit [Session σ] in
theorem keeps_protect {op : Op σ α} (h : Meets P op (fun _ _ => True) fun e _ => e.IsOrdinary) :
    Meets P (k.protect op) (fun _ _ => True) fun e _ => e.IsOrdinary := by
  refine .catching h fun e => ?_
  exact .bind (Q := fun _ _ => e.IsOrdinary) (.modifying fun _ he => he) fun _ =>
    .throwing fun _ he => he

omit [Session σ] in
/-- The names are there if there is a result set. -/
theorem meets_columnNames (hnames : ∀ c, P c → (k.recordIn c).columnNames.isSome = true) :
    Keeps P (k.columnNames : Op σ (List String)) := by
  refine .afterLook fun r => ?_
  cases hknown : r.columnNames with
  | some names => exact .pure fun _ hc => hc.1
  | none =>
      refine .throwing fun c hc => ?_
      have hnamed := hnames c hc.1
      rw [← hc.2, hknown] at hnamed
      cases hnamed

/-- A result set that can be read. -/
def IsReadable (k : Cursor) (c : Connection σ) : Prop :=
  (k.recordIn c).Readable ∧ (k.recordIn c).state = .hasResults

omit [Session σ] in
theorem onSet_isReadable (k : Cursor) : k.OnSet fun c : Connection σ => k.IsReadable c :=
  (onSet_readable k).hasResults

omit [Session σ] in
/-- A fetch only goes on with a result set. -/
theorem meets_checkResults (k : Cursor) :
    Meets (fun c => (k.recordIn c).Readable) (k.checkResults : Op σ Unit)
      (fun _ c => k.IsReadable c) fun e _ => e.IsOrdinary := by
  refine .bind keeps_check fun _ => .afterLook fun r => ?_
  show Meets _ (if r.description.isNone then _ else _) _ _
  by_cases hdescription : r.description.isNone = true
  · rw [if_pos hdescription]
    exact .throwing fun _ _ => nofun
  · rw [if_neg hdescription]
    refine .pure fun c hc => ⟨hc.1, hc.1.described ?_⟩
    rw [← hc.2, Option.isSome_iff_ne_none, ne_eq, ← Option.isNone_iff_eq_none]
    exact hdescription

theorem keeps_fetchRows (wanted : Nat → Except CompareError Bool) :
    Keeps (fun c => k.IsReadable c) (k.readRows wanted : Op σ (List (List Value))) :=
  keeps_readRows (onSet_isReadable k) (fun _ hc => hc.1) wanted

omit [Session σ] in
theorem keeps_names : Keeps (fun c => k.IsReadable c) (k.columnNames : Op σ (List String)) :=
  meets_columnNames fun _ hc => hc.1.named hc.2

theorem keeps_fetchWhile (wanted : Nat → Except CompareError Bool) :
    Keeps (fun c => k.IsReadable c) (k.fetchWhile wanted : Op σ RowList) :=
  .bind (keeps_fetchRows wanted) fun _ => .bind keeps_names fun _ => .pure fun _ hc => hc

end Cursor

/-- The steps that read a result set or leave it for the next one. -/
def CursorAction.isFetch : CursorAction → Bool
  | .fetchOne | .fetchMany _ | .fetchAll | .iterate _ | .nextSet => true
  | _ => false

variable [Session σ]

/-- No fetch lacks anything. -/
theorem meets_perform_fetch (k : Cursor) {a : CursorAction} (ha : a.isFetch = true) :
    Meets (fun c => (k.recordIn c).Readable) (a.perform k : Op σ Answer) (fun _ _ => True)
      fun e _ => e.IsOrdinary := by
  cases a with
  | fetchOne =>
      refine .bind (Q := fun _ _ => True) ?_ fun row => ?_
      · refine .bind (meets_checkResults k) fun _ => ?_
        refine .bind (keeps_readRow (onSet_isReadable k) fun _ hc => hc.1) fun row => ?_
        cases row with
        | none => exact .pure fun _ _ => trivial
        | some values => exact .bind keeps_names fun _ => .pure fun _ _ => trivial
      · cases row with
        | none => exact .pure fun _ _ => trivial
        | some row => exact .pure fun _ _ => trivial
  | fetchMany size =>
      refine .bind (Q := fun _ c => k.IsReadable c) ?_ fun _ => .pure fun _ _ => trivial
      refine .bind (meets_checkResults k) fun _ => .afterLook fun _ => ?_
      exact (keeps_fetchWhile _).strengthen fun _ hc => hc.1
  | fetchAll =>
      exact .bind (.bind (meets_checkResults k) fun _ => keeps_fetchWhile _) fun _ =>
        .pure fun _ _ => trivial
  | iterate limit =>
      refine .bind (Q := fun _ c => k.IsReadable c) ?_ fun _ => .pure fun _ _ => trivial
      refine .bind (meets_checkResults k) fun _ => .bind (keeps_fetchRows _) fun _ => ?_
      exact .bind keeps_names fun _ => .pure fun _ hc => hc
  | nextSet =>
      refine .bind (Q := fun _ _ => True) ?_ fun found => ?_
      · refine .bind keeps_check fun _ => .afterLook fun r => ?_
        by_cases hreading : isReading r.state = true
        · rw [if_pos hreading]
          have hdiscard : Keeps (fun c => (k.recordIn c).Readable) (k.discardRows : Op σ Unit) :=
            .bind (keeps_readRows (onSet_readable k) (fun _ hc => hc) _) fun _ =>
              .pure fun _ hc => hc
          refine keeps_protect (.bind (hdiscard.strengthen fun _ hc => hc.1) fun _ => ?_)
          refine .bind ((keeps_advance k).strengthen fun _ _ => trivial) fun found => ?_
          cases found with
          | false => exact .pure fun _ _ => trivial
          | true =>
              exact .bind (Q := fun _ _ => True) (.modifying fun _ _ => trivial) fun _ =>
                .pure fun _ _ => trivial
        · rw [if_neg hreading]
          exact .pure fun _ _ => trivial
      · cases found with
        | false => exact .pure fun _ _ => trivial
        | true => exact .pure fun _ _ => trivial
  | _ => cases ha

/-! ## Runs -/

/-- A cursor with a result set is the active one, and the connection is open. -/
theorem Reachable.holds_results {c : Connection σ} (hc : Reachable c) {k : Cursor}
    (hstate : (k.recordIn c).state = .hasResults) :
    c.active = some k.index ∧ c.isOpen = true := by
  have hreading : isReading (c.stateOf k) = true := by
    rw [stateOf, hstate]
    rfl
  have hactive := (hc.isolated.readsOwn k hreading).1
  refine ⟨hactive, ?_⟩
  by_cases hopen : c.isOpen = true
  · exact hopen
  · have hnone := hc.coherent.inactive (by simpa using hopen)
    rw [hnone] at hactive
    cases hactive

theorem Reachable.not_executing {c : Connection σ} (hc : Reachable c) (k : Cursor) :
    (k.recordIn c).state ≠ .executing := by
  intro hstate
  have hreading : isReading (c.stateOf k) = true := by
    rw [stateOf, hstate]
    rfl
  exact hc.isolated_atRest.2 k (hc.isolated.readsOwn k hreading).1 hstate

/-- In every run and for every cursor: the columns are described, named and converted exactly while
there is a result set, names and conversions being those of the described columns; rows are only
numbered then; no request is left before its first result; of all cursors only the active one has a
result set, and none once the connection is closed; and so no fetch lacks anything. -/
theorem cursors_coherent {c : Connection σ} (hc : Reachable c) (k : Cursor) :
    (((k.recordIn c).description.isSome = true ↔ (k.recordIn c).state = .hasResults) ∧
      ((k.recordIn c).columnNames.isSome = true ↔ (k.recordIn c).state = .hasResults) ∧
      ((k.recordIn c).conversions.isSome = true ↔ (k.recordIn c).state = .hasResults) ∧
      (k.recordIn c).columnNames = (k.recordIn c).description.map (·.map (·.name)) ∧
      (k.recordIn c).conversions =
        (k.recordIn c).description.map (·.map fun d => Column.conversion? d.typeCode)) ∧
    ((k.recordIn c).rowNumber.isSome = true → (k.recordIn c).state = .hasResults) ∧
    (k.recordIn c).state ≠ .executing ∧
    ((k.recordIn c).state = .hasResults → c.active = some k.index ∧
      ∀ j : Cursor, (j.recordIn c).state = .hasResults → j = k) ∧
    (c.isOpen = false → (k.recordIn c).state ≠ .hasResults) ∧
    ∀ a : CursorAction, a.isFetch = true → ∀ e c', a.perform k c = .error e c' →
      e ≠ .brokenResult := by
  have hrecord := hc.coherent.records k
  refine ⟨⟨hrecord.described, hrecord.isSome_columnNames, hrecord.isSome_conversions,
    hrecord.names, hrecord.conversions⟩, hrecord.numbered, hc.not_executing k, ?_, ?_, ?_⟩
  · intro hstate
    have hactive := (hc.holds_results hstate).1
    refine ⟨hactive, fun j hj => eq_of_index ?_⟩
    have hother := (hc.holds_results hj).1
    rw [hactive] at hother
    exact (Option.some.inj hother).symm
  · intro hclosed hstate
    have hopen := (hc.holds_results hstate).2
    rw [hclosed] at hopen
    cases hopen
  · intro a ha e c' hperformed
    have hends := meets_perform_fetch k ha c hrecord.readable
    rw [hperformed] at hends
    exact hends

/-- Of the two cursors of that connection the first has the result set, named as described, and the
second has lost its own. -/
theorem cursors_coherent_overtaken :
    (Cursor.recordIn ⟨0⟩ overtaken).state = .hasResults ∧ overtaken.active = some 0 ∧
      (Cursor.recordIn ⟨0⟩ overtaken).columnNames.isSome = true ∧
      (Cursor.recordIn ⟨1⟩ overtaken).description.isSome = false := by
  have hstate : (Cursor.recordIn ⟨0⟩ overtaken).state = .hasResults := by decide +kernel
  obtain ⟨⟨_, hnamed, _⟩, _, _, hactive, _⟩ := cursors_coherent reachable_overtaken ⟨0⟩
  obtain ⟨⟨hdescribed, _⟩, _⟩ := cursors_coherent reachable_overtaken ⟨1⟩
  refine ⟨hstate, (hactive hstate).1, hnamed.2 hstate, ?_⟩
  rw [← Bool.not_eq_true, hdescribed]
  intro hother
  cases (hactive hstate).2 ⟨1⟩ hother

end TdsClient
