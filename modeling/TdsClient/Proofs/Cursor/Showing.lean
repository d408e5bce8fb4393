import TdsClient.Proofs.Cursor.View
import TdsClient.Proofs.Number.Order

/-!
# What a cursor shows of a response

A cursor over a session that serves a response shows its result sets to the
program. At any time the cursor knows what belongs to the view that the
program has, and the session still holds what the program has not seen.
Reading rows and going on keep this: the view moves along.

## Main definitions

* `Shows` — what a cursor knows, and what its session holds, at a view.
* `HasRead`, `IsBefore` — what there is while rows are read, and between result sets.

## Main results

* `perform_fetch` — a fetch returns the rows that are due.
* `nextSet_of_onSet` — the rest of a result set is left for the next one.
-/

namespace TdsClient.Cursor

open Connection Op

variable {σ α : Type}

/-! ## What a cursor shows -/

/-- A cursor that can be used. -/
structure Ready (k : Cursor) (escalates : Bool) (c : Connection σ) : Prop where
  has : c.Has k
  usable : c.fault? = none
  escalates : c.escalates = escalates

/-- What a session holds is what the program is still to see. -/
def Awaits (version : Version) (Holds : σ → Option (List (List Value)) → List ServerResult → Prop)
    (c : Connection σ) (rows : Option (List (List Value))) (later : List ResultSet) : Prop :=
  ∃ results shown, Holds c.session rows results ∧ List.Forall₂ (Presents version) results shown ∧
    shown.reduceOption = later

/-- A cursor at a result set, of which some rows were returned. -/
structure IsAt (k : Cursor) (set : ResultSet) (returned : Nat) (numbered : Bool)
    (c : Connection σ) : Prop where
  state : (k.recordIn c).state = .hasResults
  description : (k.recordIn c).description = some set.description
  names : (k.recordIn c).columnNames = some set.names
  rowNumber : (k.recordIn c).rowNumber = if numbered then some returned else none
  fresh : numbered = false → returned = 0
  returned_le : returned ≤ set.rows.length

/-- A cursor that shows a view: it is at the result set, and the session holds its remaining rows
and what follows; or it is at the end. -/
inductive Shows (k : Cursor) (escalates : Bool) (version : Version)
    (Holds : σ → Option (List (List Value)) → List ServerResult → Prop) (c : Connection σ) :
    View → Prop
  | onSet {set : ResultSet} {returned : Nat} {numbered : Bool} {later : List ResultSet}
      {raws : List (List Value)} (hready : Ready k escalates c)
      (hat : IsAt k set returned numbered c)
      (hrows : List.Forall₂ (Converts (k.recordIn c)) raws (set.rows.drop returned))
      (hlater : Awaits version Holds c (some raws) later) :
      Shows k escalates version Holds c (.onSet set returned numbered later)
  | ended (hready : Ready k escalates c) (hstate : (k.recordIn c).state = .exhausted)
      (hdescription : (k.recordIn c).description = none) : Shows k escalates version Holds c .ended

variable {k : Cursor} {escalates : Bool} {version : Version}
  {Holds : σ → Option (List (List Value)) → List ServerResult → Prop} {c : Connection σ}

theorem Ready.took (h : Ready k escalates c) (used : Delivery α × σ) :
    Ready k escalates (c.took used) :=
  ⟨h.has, h.usable, h.escalates⟩

theorem Ready.changed (h : Ready k escalates c) (f : CursorRecord → CursorRecord) :
    Ready k escalates (c.changed k f) :=
  ⟨(has_modifyCursor c k.index f k).2 h.has, h.usable, h.escalates⟩

/-- A use of the session that gives a result. -/
theorem Ready.call {work : σ → Delivery α × σ} {a : α} (h : Ready k escalates c)
    (hwork : Answers escalates (work c.session).1 a) :
    call work c = .ok a (c.took (work c.session)) :=
  call_of_answers h.usable (h.escalates ▸ hwork)

/-- What a cursor knows after the session was used and the cursor changed. -/
theorem Ready.recordIn_changed (h : Ready k escalates c) (used : Delivery α × σ)
    (f : CursorRecord → CursorRecord) :
    k.recordIn ((c.took used).changed k f) = f (k.recordIn c) :=
  recordIn_modifyCursor_self (c := c.took used) h.has f

/-- A change of other things leaves a cursor at its result set. -/
theorem IsAt.congr {c' : Connection σ} {set : ResultSet} {returned returned' : Nat}
    {numbered numbered' : Bool} (h : IsAt k set returned numbered c)
    (hstate : (k.recordIn c').state = (k.recordIn c).state)
    (hdescription : (k.recordIn c').description = (k.recordIn c).description)
    (hnames : (k.recordIn c').columnNames = (k.recordIn c).columnNames)
    (hnumber : (k.recordIn c').rowNumber = if numbered' then some returned' else none)
    (hfresh : numbered' = false → returned' = 0) (hle : returned' ≤ set.rows.length) :
    IsAt k set returned' numbered' c' :=
  ⟨hstate.trans h.state, hdescription.trans h.description, hnames.trans h.names, hnumber, hfresh,
    hle⟩

/-- Rows are converted alike as long as the conversions are known. -/
theorem forall₂_converts {r r' : CursorRecord} (h : r'.conversions = r.conversions)
    {raws rows : List (List Value)} (hrows : List.Forall₂ (Converts r) raws rows) :
    List.Forall₂ (Converts r') raws rows := by
  apply hrows.imp
  intro raw row hconverts
  unfold Converts
  rw [h]
  exact hconverts

variable [Session σ]

/-! ## Reading rows -/

/-- A row that the session gives is converted, returned and counted. -/
theorem readRow_of_answers (hready : Ready k escalates c)
    (hstate : (k.recordIn c).state = .hasResults) {raw row : List Value}
    (hanswers : Answers escalates (Session.fetchRow c.session).1 (some raw))
    (hconverts : Converts (k.recordIn c) raw row) :
    k.readRow c =
      .ok (some row) ((c.took (Session.fetchRow c.session)).changed k (·.countRow)) := by
  obtain ⟨conversions, hconversions, hconverted⟩ := hconverts
  refine bind_eq_ok.2 ⟨_, _, rfl, ?_⟩
  rw [if_neg (not_not_intro hstate)]
  refine bind_eq_ok.2 ⟨_, _, hready.call hanswers, bind_eq_ok.2 ⟨_, _, rfl, ?_⟩⟩
  have hsame : k.recordIn (c.took (Session.fetchRow c.session)) = k.recordIn c := rfl
  rw [hsame, hconversions]
  refine bind_eq_ok.2 ⟨_, _, rfl, ?_⟩
  rw [hconverted]
  rfl

/-- A further row is returned and counted. -/
theorem readRow_of_row (hserves : Serves escalates version Holds) {set : ResultSet}
    {returned : Nat} {numbered : Bool} {later : List ResultSet}
    (h : Shows k escalates version Holds c (.onSet set returned numbered later))
    {row : List Value} (hrow : set.rows[returned]? = some row) :
    ∃ c', k.readRow c = .ok (some row) c' ∧
      Shows k escalates version Holds c' (.onSet set (returned + 1) true later) := by
  obtain ⟨hready, hat, hrows, results, shown, hholds, hshown, hlater⟩ := h
  obtain ⟨hlength, hvalue⟩ := List.getElem?_eq_some_iff.1 hrow
  rw [List.drop_eq_getElem_cons hlength, hvalue] at hrows
  obtain ⟨raw, raws, hconverts, hrest, rfl⟩ := List.forall₂_cons_right_iff.1 hrows
  obtain ⟨hanswers, hholds⟩ := hserves.row hholds
  have hrecord := hready.recordIn_changed (Session.fetchRow c.session) (·.countRow)
  refine ⟨_, readRow_of_answers hready hat.state hanswers hconverts, ?_⟩
  refine .onSet ((hready.took _).changed _) (hat.congr ?_ ?_ ?_ ?_ nofun hlength)
    (forall₂_converts ?_ hrest) ⟨results, shown, hholds, hshown, hlater⟩
  · rw [hrecord]
    rfl
  · rw [hrecord]
    rfl
  · rw [hrecord]
    rfl
  · rw [hrecord]
    show some ((k.recordIn c).rowNumber.getD 0 + 1) = some (returned + 1)
    rw [hat.rowNumber]
    cases hnumbered : numbered with
    | true => rfl
    | false =>
        rw [hat.fresh hnumbered]
        rfl
  · rw [hrecord]
    rfl

/-- At the end of a result set there is no further row, however often one is asked for. -/
theorem readRow_of_noRow (hserves : Serves escalates version Holds) {set : ResultSet}
    {returned : Nat} {numbered : Bool} {later : List ResultSet}
    (h : Shows k escalates version Holds c (.onSet set returned numbered later))
    (hrow : set.rows[returned]? = none) :
    ∃ c', k.readRow c = .ok none c' ∧
      Shows k escalates version Holds c' (.onSet set returned numbered later) := by
  obtain ⟨hready, hat, hrows, results, shown, hholds, hshown, hlater⟩ := h
  rw [List.drop_eq_nil_of_le (List.getElem?_eq_none_iff.1 hrow),
    List.forall₂_nil_right_iff] at hrows
  subst hrows
  obtain ⟨hanswers, hholds⟩ := hserves.noRow hholds
  have hrecord := hready.recordIn_changed (Session.fetchRow c.session) fun r =>
    { r with rowCount := Session.rowCount (Session.fetchRow c.session).2 }
  refine ⟨(c.took (Session.fetchRow c.session)).changed k fun r =>
    { r with rowCount := Session.rowCount (Session.fetchRow c.session).2 }, ?_, ?_⟩
  · refine bind_eq_ok.2 ⟨_, _, rfl, ?_⟩
    rw [if_neg (not_not_intro hat.state)]
    exact bind_eq_ok.2 ⟨_, _, hready.call hanswers, rfl⟩
  · refine .onSet ((hready.took _).changed _) (hat.congr ?_ ?_ ?_ ?_ hat.fresh hat.returned_le)
      ?_ ⟨results, shown, hholds, hshown, hlater⟩
    · rw [hrecord]
    · rw [hrecord]
    · rw [hrecord]
    · rw [hrecord]
      exact hat.rowNumber
    · rw [List.drop_eq_nil_of_le (List.getElem?_eq_none_iff.1 hrow)]
      exact .nil

/-- What there is once rows were read of a result set: they are its next rows, and the view is
behind them. -/
structure HasRead (k : Cursor) (escalates : Bool) (version : Version)
    (Holds : σ → Option (List (List Value)) → List ServerResult → Prop) (set : ResultSet)
    (returned : Nat) (numbered : Bool) (later : List ResultSet) (rows : List (List Value))
    (c : Connection σ) : Prop where
  eq_take : rows = (set.rows.drop returned).take rows.length
  shows : Shows k escalates version Holds c
    (.onSet set (returned + rows.length) (numbered || 0 < rows.length) later)

omit [Session σ] in
theorem HasRead.start {set : ResultSet} {returned : Nat} {numbered : Bool}
    {later : List ResultSet}
    (h : Shows k escalates version Holds c (.onSet set returned numbered later)) :
    HasRead k escalates version Holds set returned numbered later [] c where
  eq_take := rfl
  shows := by
    rw [List.length_nil, Nat.add_zero, decide_eq_false (Nat.lt_irrefl 0), Bool.or_false]
    exact h

/-- The row that is read after others is the next one, if there is one. -/
theorem succeeds_readNext (hserves : Serves escalates version Holds) (set : ResultSet)
    (returned : Nat) (numbered : Bool) (later : List ResultSet) (rows : List (List Value)) :
    Succeeds (HasRead k escalates version Holds set returned numbered later rows)
      (k.readRow : Op σ (Option (List Value)))
      (fun row c => row = set.rows[returned + rows.length]? ∧
        HasRead k escalates version Holds set returned numbered later (rows ++ row.toList) c) := by
  rw [succeeds_iff]
  intro c hc
  cases hrow : set.rows[returned + rows.length]? with
  | none =>
      obtain ⟨c', hread, hshows⟩ := readRow_of_noRow hserves hc.shows hrow
      refine ⟨none, c', hread, rfl, ?_⟩
      rw [Option.toList_none, List.append_nil]
      exact ⟨hc.eq_take, hshows⟩
  | some row =>
      obtain ⟨c', hread, hshows⟩ := readRow_of_row hserves hc.shows hrow
      refine ⟨some row, c', hread, rfl, ?_⟩
      have hlength : (rows ++ [row]).length = rows.length + 1 := List.length_append
      constructor
      · rw [Option.toList_some, hlength, List.take_add_one, ← hc.eq_take, List.getElem?_drop, hrow,
          Option.toList_some]
      · rw [Option.toList_some, hlength, decide_eq_true (Nat.succ_pos _), Bool.or_true,
          ← Nat.add_assoc]
        exact hshows

/-- A row more is read as long as there are less than the bound. -/
theorem succeeds_readRowsStep (hserves : Serves escalates version Holds) (set : ResultSet)
    (returned : Nat) (numbered : Bool) (later : List ResultSet)
    {wanted : Nat → Except CompareError Bool} {bound : Nat} (rows : List (List Value))
    (hwanted : wanted rows.length = .ok (decide (rows.length < bound)))
    (hrows : rows.length ≤ min bound (set.rows.length - returned)) :
    Succeeds (HasRead k escalates version Holds set returned numbered later rows)
      (k.readRowsStep wanted rows : Op σ (ForInStep (List (List Value))))
      (fun r c => match r with
        | .done rows => rows.length = min bound (set.rows.length - returned) ∧
          HasRead k escalates version Holds set returned numbered later rows c
        | .yield rows => rows.length ≤ min bound (set.rows.length - returned) ∧
          HasRead k escalates version Holds set returned numbered later rows c) := by
  unfold readRowsStep
  rw [hwanted]
  by_cases hmore : rows.length < bound
  · rw [decide_eq_true hmore]
    refine Meets.bind (x := k.readRow)
      (succeeds_readNext hserves set returned numbered later rows) fun row => ?_
    cases row with
    | none =>
        refine .pure fun c hc => ⟨?_, ?_⟩
        · have hend := List.getElem?_eq_none_iff.1 hc.1.symm
          omega
        · have hread := hc.2
          rw [Option.toList_none, List.append_nil] at hread
          exact hread
    | some row =>
        refine .pure fun c hc => ⟨?_, hc.2⟩
        obtain ⟨hlength, _⟩ := List.getElem?_eq_some_iff.1 hc.1.symm
        rw [List.length_append, List.length_singleton]
        omega
  · rw [decide_eq_false hmore]
    show Succeeds _ (pure (ForInStep.done rows)) _
    refine .pure fun c hc => ⟨?_, hc⟩
    omega

/-- Rows are read up to a bound, or to the end of the result set. -/
theorem succeeds_readRows (hserves : Serves escalates version Holds) (set : ResultSet)
    (returned : Nat) (numbered : Bool) (later : List ResultSet)
    {wanted : Nat → Except CompareError Bool} {bound : Nat}
    (hwanted : ∀ n ≤ set.rows.length - returned, wanted n = .ok (decide (n < bound))) :
    Succeeds (HasRead k escalates version Holds set returned numbered later [])
      (k.readRows wanted : Op σ (List (List Value)))
      (fun rows c => rows.length = min bound (set.rows.length - returned) ∧
        HasRead k escalates version Holds set returned numbered later rows c) := by
  have hloop : Succeeds (fun c =>
      ([] : List (List Value)).length ≤ min bound (set.rows.length - returned) ∧
        HasRead k escalates version Holds set returned numbered later [] c)
      (k.readRows wanted : Op σ (List (List Value)))
      (fun rows c => rows.length = min bound (set.rows.length - returned) ∧
        HasRead k escalates version Holds set returned numbered later rows c) := by
    refine .looping (I := fun rows c => rows.length ≤ min bound (set.rows.length - returned) ∧
      HasRead k escalates version Holds set returned numbered later rows c) (fun rows => ?_) []
    intro c hc
    have hstep := succeeds_readRowsStep (k := k) hserves set returned numbered later rows
      (hwanted rows.length (by omega)) hc.1
    refine hstep.weaken (fun _ hread => hread) (fun r d hr => ?_) (fun _ _ hfail => hfail) c hc.2
    cases r with
    | done rows => exact hr
    | yield rows => exact hr
  exact hloop.strengthen fun c hc => ⟨Nat.zero_le _, hc⟩

/-- Rows are wanted without a bound: to the end of the result set and beyond it. -/
theorem wanted_unbounded (left : Nat) : ∀ n ≤ left,
    (Except.ok true : Except CompareError Bool) = .ok (decide (n < left + 1)) := by
  intro n hn
  rw [decide_eq_true (Nat.lt_succ_of_le hn)]

/-! ## Fetching -/

omit [Session σ] in
theorem Ready.check (h : Ready k escalates c) (hstate : (k.recordIn c).state ≠ .closed) :
    k.check c = .ok () c :=
  check_of_usable hstate h.usable

omit [Session σ] in
theorem IsAt.not_closed {set : ResultSet} {returned : Nat} {numbered : Bool}
    (h : IsAt k set returned numbered c) : (k.recordIn c).state ≠ .closed := by
  rw [h.state]
  exact nofun

omit [Session σ] in
/-- Rows can be asked for where there are columns. -/
theorem checkResults_of_described (hready : Ready k escalates c)
    (hstate : (k.recordIn c).state = .hasResults) {description : List ColumnDescription}
    (hdescription : (k.recordIn c).description = some description) :
    k.checkResults c = .ok () c := by
  have hopen : (k.recordIn c).state ≠ .closed := by
    rw [hstate]
    exact nofun
  refine bind_eq_ok.2 ⟨_, _, hready.check hopen, bind_eq_ok.2 ⟨_, _, rfl, ?_⟩⟩
  rw [hdescription]
  rfl

omit [Session σ] in
theorem columnNames_of_known {names : List String}
    (hnames : (k.recordIn c).columnNames = some names) : k.columnNames c = .ok names c := by
  refine bind_eq_ok.2 ⟨_, _, rfl, ?_⟩
  rw [hnames]
  rfl

section fetching

variable {set : ResultSet} {returned : Nat} {numbered : Bool} {later : List ResultSet}

omit [Session σ] in
/-- At a result set rows can be asked for. -/
theorem Shows.checkResults
    (h : Shows k escalates version Holds c (.onSet set returned numbered later)) :
    k.checkResults c = .ok () c := by
  cases h with
  | onSet hready hat _ _ => exact checkResults_of_described hready hat.state hat.description

omit [Session σ] in
/-- At a result set the names of its columns are known. -/
theorem Shows.columnNames
    (h : Shows k escalates version Holds c (.onSet set returned numbered later)) :
    k.columnNames c = .ok set.names c := by
  cases h with
  | onSet _ hat _ _ => exact columnNames_of_known hat.names

/-- Rows that are fetched together are put in a list. -/
theorem fetchWhile_of_readRows {f : Fetch} {wanted : Nat → Except CompareError Bool}
    (hread : ∃ c', k.readRows wanted c = .ok (View.rows set returned f) c' ∧
      Shows k escalates version Holds c'
        ((View.onSet set returned numbered later).after (.fetch f))) :
    ∃ c', k.fetchWhile wanted c =
        .ok (.ofValues set.names (View.rows set returned f)) c' ∧
      Shows k escalates version Holds c'
        ((View.onSet set returned numbered later).after (.fetch f)) := by
  obtain ⟨c', hrows, hshows⟩ := hread
  have hnames : k.columnNames c' = .ok set.names c' := hshows.columnNames
  exact ⟨c', bind_eq_ok.2 ⟨_, _, hrows, bind_eq_ok.2 ⟨_, _, hnames, rfl⟩⟩, hshows⟩

variable (hserves : Serves escalates version Holds)
  (h : Shows k escalates version Holds c (.onSet set returned numbered later))
include hserves h

/-- The rows of a fetch, read one after the other up to its bound. -/
theorem readRows_of_count (f : Fetch) {wanted : Nat → Except CompareError Bool} {bound : Nat}
    (hcount : f.count (set.rows.length - returned) = min bound (set.rows.length - returned))
    (hwanted : ∀ n ≤ set.rows.length - returned, wanted n = .ok (decide (n < bound))) :
    ∃ c', k.readRows wanted c = .ok (View.rows set returned f) c' ∧
      Shows k escalates version Holds c'
        ((View.onSet set returned numbered later).after (.fetch f)) := by
  obtain ⟨rows, c', hread, hlength, heq, hshows⟩ := succeeds_iff.1
    (succeeds_readRows hserves set returned numbered later hwanted) c (.start h)
  have hrows : rows = View.rows set returned f := by
    rw [heq, hlength, ← hcount]
    rfl
  subst hrows
  exact ⟨c', hread, hshows⟩

/-- The rows of a fetch that has no bound. -/
theorem readRows_of_unbounded (f : Fetch)
    (hcount : f.count (set.rows.length - returned) = set.rows.length - returned) :
    ∃ c', k.readRows (fun _ => .ok true) c = .ok (View.rows set returned f) c' ∧
      Shows k escalates version Holds c'
        ((View.onSet set returned numbered later).after (.fetch f)) := by
  refine readRows_of_count hserves h f ?_ (wanted_unbounded _)
  rw [hcount]
  omega

/-- The next row is returned, if there is one. -/
theorem fetchOne_of_shows :
    ∃ c', k.fetchOne c = .ok (set.rows[returned]?.map (Row.mk set.names)) c' ∧
      Shows k escalates version Holds c'
        ((View.onSet set returned numbered later).after (.fetch .one)) := by
  have hafter : (View.onSet set returned numbered later).after (.fetch .one) =
      .onSet set (returned + (View.rows set returned .one).length)
        (numbered || 0 < (View.rows set returned .one).length) later := rfl
  rw [hafter, View.rows_one]
  cases hrow : set.rows[returned]? with
  | none =>
      obtain ⟨c', hread, hshows⟩ := readRow_of_noRow hserves h hrow
      refine ⟨c', bind_eq_ok.2 ⟨_, _, h.checkResults, bind_eq_ok.2 ⟨_, _, hread, rfl⟩⟩, ?_⟩
      rw [Option.toList_none, List.length_nil, Nat.add_zero,
        decide_eq_false (Nat.lt_irrefl 0), Bool.or_false]
      exact hshows
  | some row =>
      obtain ⟨c', hread, hshows⟩ := readRow_of_row hserves h hrow
      refine ⟨c', bind_eq_ok.2 ⟨_, _, h.checkResults, bind_eq_ok.2 ⟨_, _, hread,
        bind_eq_ok.2 ⟨_, _, hshows.columnNames, rfl⟩⟩⟩, ?_⟩
      rw [Option.toList_some, List.length_singleton, decide_eq_true Nat.one_pos, Bool.or_true]
      exact hshows

/-- As many rows are returned as are asked for, none if their number is negative. -/
theorem fetchMany_of_shows (n : Int) :
    ∃ c', k.fetchMany (.int n) c =
        .ok (.ofValues set.names (View.rows set returned (.many n))) c' ∧
      Shows k escalates version Holds c'
        ((View.onSet set returned numbered later).after (.fetch (.many n))) := by
  have hwanted : ∀ m ≤ set.rows.length - returned,
      (Value.int m).less (.int n) = .ok (decide (m < (max n 0).toNat)) := by
    intro m _
    rw [Value.less_int]
    exact congrArg Except.ok (decide_eq_decide.2 (by omega))
  obtain ⟨c', hfetch, hshows⟩ := fetchWhile_of_readRows
    (readRows_of_count hserves h (.many n) rfl hwanted)
  exact ⟨c', bind_eq_ok.2 ⟨_, _, h.checkResults, bind_eq_ok.2 ⟨_, _, rfl, hfetch⟩⟩, hshows⟩

/-- Iteration returns rows until it is left, or to the end of the result set. -/
theorem iterate_of_shows (limit : Option Nat) :
    ∃ c', k.iterate limit c =
        .ok ((View.rows set returned (.iterate limit)).map (Row.mk set.names)) c' ∧
      Shows k escalates version Holds c'
        ((View.onSet set returned numbered later).after (.fetch (.iterate limit))) := by
  cases limit with
  | none =>
      obtain ⟨c', hrows, hshows⟩ := readRows_of_unbounded hserves h (.iterate none) rfl
      have hnames : k.columnNames c' = .ok set.names c' := hshows.columnNames
      exact ⟨c', bind_eq_ok.2 ⟨_, _, h.checkResults, bind_eq_ok.2 ⟨_, _, hrows,
        bind_eq_ok.2 ⟨_, _, hnames, rfl⟩⟩⟩, hshows⟩
  | some limit =>
      obtain ⟨c', hrows, hshows⟩ :=
        readRows_of_count hserves h (.iterate (some limit)) rfl fun _ _ => rfl
      have hnames : k.columnNames c' = .ok set.names c' := hshows.columnNames
      exact ⟨c', bind_eq_ok.2 ⟨_, _, h.checkResults, bind_eq_ok.2 ⟨_, _, hrows,
        bind_eq_ok.2 ⟨_, _, hnames, rfl⟩⟩⟩, hshows⟩

/-- A fetch returns the rows that are due, and the cursor then shows what is behind them. -/
theorem perform_fetch (f : Fetch) :
    ∃ c', f.action.perform k c = .ok (f.answer set.names (View.rows set returned f)) c' ∧
      Shows k escalates version Holds c'
        ((View.onSet set returned numbered later).after (.fetch f)) := by
  cases f with
  | one =>
      obtain ⟨c', hfetch, hshows⟩ := fetchOne_of_shows hserves h
      refine ⟨c', bind_eq_ok.2 ⟨_, _, hfetch, ?_⟩, hshows⟩
      rw [View.rows_one]
      cases set.rows[returned]? with
      | none => rfl
      | some row => rfl
  | many n =>
      obtain ⟨c', hfetch, hshows⟩ := fetchMany_of_shows hserves h n
      exact ⟨c', bind_eq_ok.2 ⟨_, _, hfetch, rfl⟩, hshows⟩
  | all =>
      obtain ⟨c', hfetch, hshows⟩ := fetchWhile_of_readRows
        (readRows_of_unbounded hserves h .all rfl)
      have hall : k.fetchAll c = .ok (.ofValues set.names (View.rows set returned .all)) c' :=
        bind_eq_ok.2 ⟨_, _, h.checkResults, hfetch⟩
      exact ⟨c', bind_eq_ok.2 ⟨_, _, hall, rfl⟩, hshows⟩
  | iterate limit =>
      obtain ⟨c', hfetch, hshows⟩ := iterate_of_shows hserves h limit
      exact ⟨c', bind_eq_ok.2 ⟨_, _, hfetch, rfl⟩, hshows⟩

end fetching

/-! ## Going on -/

/-- A cursor that has left a result set, or is before the first one: no row is left, and the session
holds what is to come. -/
def IsBefore (k : Cursor) (escalates : Bool) (version : Version)
    (Holds : σ → Option (List (List Value)) → List ServerResult → Prop) (later : List ResultSet)
    (c : Connection σ) : Prop :=
  ∃ rows, rows.getD [] = [] ∧ Ready k escalates c ∧ Awaits version Holds c rows later

/-- At the end of the response a cursor is exhausted. -/
theorem advanceStep_complete (hready : Ready k escalates c)
    (hanswers : Answers escalates (Session.nextResult c.session).1 none) (b : Bool) :
    ∃ f, k.advanceStep b c =
        .ok (.done false) ((c.took (Session.nextResult c.session)).changed k f) ∧
      ∀ r, (f r).state = .exhausted ∧ (f r).description = none :=
  ⟨_, bind_eq_ok.2 ⟨_, _, hready.call hanswers, bind_eq_ok.2 ⟨_, _,
    bind_eq_ok.2 ⟨_, _, rfl, rfl⟩, rfl⟩⟩, fun _ => ⟨rfl, rfl⟩⟩

/-- A bare row count is passed over. -/
theorem advanceStep_count (hready : Ready k escalates c)
    (hanswers : Answers escalates (Session.nextResult c.session).1 (some [])) (b : Bool) :
    ∃ f, k.advanceStep b c =
      .ok (.yield false) ((c.took (Session.nextResult c.session)).changed k f) :=
  ⟨_, bind_eq_ok.2 ⟨_, _, hready.call hanswers, bind_eq_ok.2 ⟨_, _,
    bind_eq_ok.2 ⟨_, _, rfl, rfl⟩, rfl⟩⟩⟩

/-- Columns that are supported are reached. -/
theorem reachColumns_of_supported {d : Connection σ} {columns supported : List Column}
    (hversion : Session.version d.session = version)
    (hsupported : columns.mapM (Column.normalize version) = .ok supported) :
    k.reachColumns columns d = .ok () (d.changed k (·.reach supported)) := by
  refine bind_eq_ok.2 ⟨_, _, rfl, ?_⟩
  rw [hversion, hsupported]
  rfl

/-- So is a result that has some. -/
theorem advanceStep_set (hready : Ready k escalates c) {columns supported : List Column}
    (hsome : columns ≠ [])
    (hanswers : Answers escalates (Session.nextResult c.session).1 (some columns))
    (hversion : Session.version (Session.nextResult c.session).2 = version)
    (hsupported : columns.mapM (Column.normalize version) = .ok supported) (b : Bool) :
    ∃ f, k.advanceStep b c = .ok (.done true)
      (((c.took (Session.nextResult c.session)).changed k f).changed k (·.reach supported)) := by
  obtain ⟨column, others, rfl⟩ := List.exists_cons_of_ne_nil hsome
  exact ⟨_, bind_eq_ok.2 ⟨_, _, hready.call hanswers, bind_eq_ok.2 ⟨_, _,
    bind_eq_ok.2 ⟨_, _, rfl, rfl⟩, bind_eq_ok.2 ⟨_, _,
      reachColumns_of_supported hversion hsupported, rfl⟩⟩⟩⟩

/-- A session that holds nothing more is at the end. -/
theorem advanceStep_of_complete (hserves : Serves escalates version Holds)
    (hready : Ready k escalates c) {rows : Option (List (List Value))}
    (hnone : rows.getD [] = []) (hholds : Holds c.session rows []) (b : Bool) :
    ∃ c', k.advanceStep b c = .ok (.done false) c' ∧
      Shows k escalates version Holds c' .ended := by
  obtain ⟨f, hstep, hended⟩ := advanceStep_complete hready (hserves.complete hholds hnone) b
  have hrecord := hready.recordIn_changed (Session.nextResult c.session) f
  refine ⟨_, hstep, .ended ((hready.took _).changed _) ?_ ?_⟩
  · rw [hrecord]
    exact (hended _).1
  · rw [hrecord]
    exact (hended _).2

/-- A bare row count that the session holds is passed over. -/
theorem advanceStep_of_count (hserves : Serves escalates version Holds)
    (hready : Ready k escalates c) {rows : Option (List (List Value))}
    {results : List ServerResult} (hnone : rows.getD [] = [])
    (hholds : Holds c.session rows (.count :: results)) (b : Bool) :
    ∃ c', k.advanceStep b c = .ok (.yield false) c' ∧ Ready k escalates c' ∧
      Holds c'.session none results := by
  obtain ⟨hanswers, hleft⟩ := hserves.count hholds hnone
  obtain ⟨f, hstep⟩ := advanceStep_count hready hanswers b
  exact ⟨_, hstep, (hready.took _).changed _, hleft⟩

/-- A result with columns that the session holds is reached. -/
theorem advanceStep_of_set (hserves : Serves escalates version Holds)
    (hready : Ready k escalates c) {rows : Option (List (List Value))} {columns : List Column}
    {raws : List (List Value)} {set : ResultSet} {results : List ServerResult}
    {shown : List (Option ResultSet)} (hnone : rows.getD [] = [])
    (hholds : Holds c.session rows (.set columns raws :: results))
    (hpresents : Presents version (.set columns raws) (some set))
    (hshown : List.Forall₂ (Presents version) results shown) (b : Bool) :
    ∃ c', k.advanceStep b c = .ok (.done true) c' ∧
      Shows k escalates version Holds c' (.onSet set 0 true shown.reduceOption) := by
  cases hpresents with
  | @set _ supported _ converted hsome hsupported hrows =>
      obtain ⟨hanswers, hleft⟩ := hserves.set hholds hnone hsome
      obtain ⟨f, hstep⟩ :=
        advanceStep_set hready hsome hanswers (hserves.version hleft) hsupported b
      have hcounted := (hready.took (Session.nextResult c.session)).changed f
      have hrecord := recordIn_modifyCursor_self hcounted.has (·.reach supported)
      refine ⟨_, hstep, .onSet (hcounted.changed _) ⟨?_, ?_, ?_, ?_, nofun, Nat.zero_le _⟩ ?_
        ⟨results, shown, hleft, hshown, rfl⟩⟩
      · exact congrArg (·.state) hrecord
      · exact congrArg (·.description) hrecord
      · exact congrArg (·.columnNames) hrecord
      · exact congrArg (·.rowNumber) hrecord
      · refine hrows.imp fun raw row hconverted => ⟨_, ?_, hconverted⟩
        exact congrArg (·.conversions) hrecord

/-- Going on leads to the next result set, or to the end of the response. -/
theorem succeeds_advance (hserves : Serves escalates version Holds) (later : List ResultSet) :
    Succeeds (IsBefore k escalates version Holds later) (k.advance : Op σ Bool)
      (fun found c => found = !later.isEmpty ∧
        Shows k escalates version Holds c (.first true later)) := by
  refine .looping (I := fun _ => IsBefore k escalates version Holds later) (fun b => ?_) false
  apply succeeds_iff.2
  intro c hc
  obtain ⟨rows, hnone, hready, results, shown, hholds, hshown, rfl⟩ := hc
  cases hshown with
  | nil =>
      obtain ⟨c', hstep, hshows⟩ := advanceStep_of_complete hserves hready hnone hholds b
      exact ⟨_, c', hstep, rfl, hshows⟩
  | @cons result seen results shown hpresents hshown =>
      cases hpresents with
      | count =>
          obtain ⟨c', hstep, hready, hholds⟩ :=
            advanceStep_of_count hserves hready hnone hholds b
          exact ⟨_, c', hstep, none, rfl, hready, results, shown, hholds, hshown, rfl⟩
      | set hsome hsupported hrows =>
          obtain ⟨c', hstep, hshows⟩ := advanceStep_of_set hserves hready hnone hholds
            (.set hsome hsupported hrows) hshown b
          exact ⟨_, c', hstep, rfl, hshows⟩

omit [Session σ] in
theorem protect_of_ok {op : Op σ α} {a : α} {c' : Connection σ} (h : op c = .ok a c') :
    k.protect op c = .ok a c' := by
  show EStateM.tryCatch op _ c = _
  unfold EStateM.tryCatch
  rw [h]

omit [Session σ] in
/-- After a failure the cursor has no results. -/
theorem protect_of_error {op : Op σ α} {e : Error} {c' : Connection σ} (h : op c = .error e c') :
    k.protect op c = .error e (c'.changed k (·.reset .unused)) := by
  show EStateM.tryCatch op _ c = _
  unfold EStateM.tryCatch
  rw [h]
  rfl

/-- The rest of a result set is dropped. -/
theorem discardRows_of_shows (hserves : Serves escalates version Holds) {set : ResultSet}
    {returned : Nat} {numbered : Bool} {later : List ResultSet}
    (h : Shows k escalates version Holds c (.onSet set returned numbered later)) :
    ∃ c', k.discardRows c = .ok () c' ∧ IsBefore k escalates version Holds later c' := by
  obtain ⟨rows, c', hread, hlength, _, hshows⟩ := succeeds_iff.1
    (succeeds_readRows hserves set returned numbered later (wanted_unbounded _)) c (.start h)
  refine ⟨c', bind_eq_ok.2 ⟨_, _, hread, rfl⟩, ?_⟩
  cases hshows with
  | @onSet _ _ _ _ raws hready hat hrows hlater =>
      have hle := hat.returned_le
      have hend : set.rows.length ≤ returned + rows.length := by omega
      rw [List.drop_eq_nil_of_le hend, List.forall₂_nil_right_iff] at hrows
      subst hrows
      exact ⟨some [], rfl, hready, hlater⟩

omit [Session σ] in
/-- The number of the next row is not known until it is read. -/
theorem Shows.unnumbered {set : ResultSet} {later : List ResultSet}
    (h : Shows k escalates version Holds c (.onSet set 0 true later)) :
    Shows k escalates version Holds (c.changed k fun r => { r with rowNumber := none })
      (.onSet set 0 false later) := by
  cases h with
  | onSet hready hat hrows hlater =>
      have hrecord := recordIn_modifyCursor_self hready.has fun r => { r with rowNumber := none }
      refine .onSet (hready.changed _) (hat.congr ?_ ?_ ?_ ?_ (fun _ => rfl) hat.returned_le)
        (forall₂_converts ?_ hrows) hlater
      · exact congrArg (·.state) hrecord
      · exact congrArg (·.description) hrecord
      · exact congrArg (·.columnNames) hrecord
      · exact congrArg (·.rowNumber) hrecord
      · exact congrArg (·.conversions) hrecord

/-- The rest of a result set is left for the next one, if there is one. -/
theorem nextSet_of_onSet (hserves : Serves escalates version Holds) {set : ResultSet}
    {returned : Nat} {numbered : Bool} {later : List ResultSet}
    (h : Shows k escalates version Holds c (.onSet set returned numbered later)) :
    ∃ c', k.nextSet c = .ok (!later.isEmpty) c' ∧
      Shows k escalates version Holds c' (.first false later) := by
  obtain ⟨d, hdiscard, hbefore⟩ := discardRows_of_shows hserves h
  obtain ⟨found, e, hadvance, rfl, hshows⟩ :=
    succeeds_iff.1 (succeeds_advance hserves later) d hbefore
  have hstart : ∀ {c'}, (k.protect (do
        k.discardRows
        let found ← k.advance
        if found then k.change fun r => { r with rowNumber := none }
        return found) : Op σ Bool) c = .ok (!later.isEmpty) c' →
      k.nextSet c = .ok (!later.isEmpty) c' := by
    intro c' hprotected
    cases h with
    | onSet hready hat _ _ =>
        refine bind_eq_ok.2 ⟨_, _, hready.check hat.not_closed, bind_eq_ok.2 ⟨_, _, rfl, ?_⟩⟩
        rw [hat.state]
        exact hprotected
  cases later with
  | nil =>
      refine ⟨e, hstart (protect_of_ok (bind_eq_ok.2 ⟨_, _, hdiscard, ?_⟩)), hshows⟩
      exact bind_eq_ok.2 ⟨_, _, hadvance, rfl⟩
  | cons next later =>
      refine ⟨e.changed k fun r => { r with rowNumber := none },
        hstart (protect_of_ok (bind_eq_ok.2 ⟨_, _, hdiscard, ?_⟩)), hshows.unnumbered⟩
      exact bind_eq_ok.2 ⟨_, _, hadvance, rfl⟩

end TdsClient.Cursor
