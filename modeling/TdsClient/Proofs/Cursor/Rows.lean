import Mathlib.Data.List.Forall2
import TdsClient.Proofs.Connection.Ownership

/-!
# Where the rows of a fetch come from

A fetch returns conversions of the rows that it reads from the session
itself, in the order in which the session delivers them. While it does so
nothing happens on the connection but that messages are heard.

## Main definitions

* `Reads` — rows fetched from a session one after the other.
* `Yields` — what a fetch has done.

## Main results

* `gives_perform` — whatever rows an action returns were read by it.
-/

namespace TdsClient.Cursor

open Connection Op

variable {σ : Type} {k : Cursor}

/-! ## Reading from a session -/

/-- Rows that a session delivers when it is asked for rows some times in a row; sometimes there
may be none. -/
inductive Reads [Session σ] : σ → List (List Value) → σ → Prop
  | nothing (s : σ) : Reads s [] s
  | noRow {s s' : σ} {rows : List (List Value)} (before : Reads s rows s')
      (hrow : (Session.fetchRow s').1.result = .ok none) : Reads s rows (Session.fetchRow s').2
  | row {s s' : σ} {rows : List (List Value)} {row : List Value} (before : Reads s rows s')
      (hrow : (Session.fetchRow s').1.result = .ok (some row)) :
      Reads s (rows ++ [row]) (Session.fetchRow s').2

/-- A row as it is converted for a result set. -/
def Converts (r : CursorRecord) (raw row : List Value) : Prop :=
  ∃ conversions, r.conversions = some conversions ∧ Column.convertRow conversions raw = .ok row

variable [Session σ]

/-- What a fetch has done so far: it read rows and converted them for the result set, which is
still the same, and at most messages were heard. -/
structure Yields (k : Cursor) (c : Connection σ) (rows : List (List Value)) (c' : Connection σ) :
    Prop where
  quiet : ∃ ms : List Message, c'.journal = c.journal ++ ms.map .heard
  isOpen : c'.isOpen = c.isOpen
  conversions : (k.recordIn c').conversions = (k.recordIn c).conversions
  state : c'.stateOf k = c.stateOf k
  allowed : rows ≠ [] → c.stateOf k = .hasResults ∧ c.isOpen = true
  converted : ∃ raws, Reads c.session raws c'.session ∧
    List.Forall₂ (Converts (k.recordIn c)) raws rows

theorem Yields.start (k : Cursor) (c : Connection σ) : Yields k c [] c where
  quiet := ⟨[], by simp⟩
  isOpen := rfl
  conversions := rfl
  state := rfl
  allowed h := absurd rfl h
  converted := ⟨[], .nothing _, .nil⟩

/-! ## Reading a row -/

/-- How a row is read: there is no result set, or no further row, or there is one. -/
theorem readRow_eq_ok {row : Option (List Value)} {c c' : Connection σ}
    (h : k.readRow c = .ok row c') :
    (c.stateOf k ≠ .hasResults ∧ row = none ∧ c' = c) ∨
    (c.stateOf k = .hasResults ∧ (Session.fetchRow c.session).1.result = .ok none ∧ row = none ∧
      c' = (c.took (Session.fetchRow c.session)).changed k fun r =>
        { r with rowCount := Session.rowCount (Session.fetchRow c.session).2 }) ∨
    (∃ raw values, c.stateOf k = .hasResults ∧ c.fault? = none ∧
      (Session.fetchRow c.session).1.result = .ok (some raw) ∧
      Converts (k.recordIn c) raw values ∧ row = some values ∧
      c' = (c.took (Session.fetchRow c.session)).changed k (·.countRow)) := by
  obtain ⟨_, _, hlook, hrest⟩ := bind_eq_ok.1 h
  cases hlook
  unfold stateOf
  by_cases hstate : (k.recordIn c).state = .hasResults
  · rw [if_neg (not_not_intro hstate)] at hrest
    obtain ⟨fetched, d, hcalled, hrest⟩ := bind_eq_ok.1 hrest
    obtain ⟨husable, hresult, _, _, rfl⟩ := (call_eq_ok_iff _ _ _ _).1 hcalled
    cases fetched with
    | none =>
        obtain ⟨_, _, hcounted, hended⟩ := bind_eq_ok.1 hrest
        cases hcounted
        cases hended
        exact .inr (.inl ⟨hstate, hresult, rfl, rfl⟩)
    | some raw =>
        obtain ⟨_, _, hknown, hrest⟩ := bind_eq_ok.1 hrest
        cases hknown
        have hsame : k.recordIn (c.took (Session.fetchRow c.session)) = k.recordIn c := rfl
        rw [hsame] at hrest
        cases hconversions : (k.recordIn c).conversions with
        | none =>
            rw [hconversions] at hrest
            cases hrest
        | some conversions =>
            rw [hconversions] at hrest
            obtain ⟨_, _, hcounted, hrest⟩ := bind_eq_ok.1 hrest
            cases hcounted
            obtain ⟨values, _, hconverted, hended⟩ := bind_eq_ok.1 hrest
            cases hended
            cases hvalues : Column.convertRow conversions raw with
            | error e =>
                rw [hvalues] at hconverted
                cases hconverted
            | ok row =>
                rw [hvalues] at hconverted
                cases hconverted
                exact .inr (.inr ⟨raw, values, hstate, husable, hresult,
                  ⟨conversions, hconversions, hvalues⟩, rfl, rfl⟩)
  · rw [if_pos hstate] at hrest
    cases hrest
    exact .inl ⟨hstate, rfl, rfl⟩

/-- What was heard during a successful use of the session is all that happened. -/
theorem Yields.used {c d : Connection σ} {rows rows' : List (List Value)} (hd : Yields k c rows d)
    (f : CursorRecord → CursorRecord) (hstate : ∀ r, (f r).state = r.state)
    (hconversions : ∀ r, (f r).conversions = r.conversions)
    (hallowed : rows' ≠ [] → c.stateOf k = .hasResults ∧ c.isOpen = true)
    (hrows : ∃ raws, Reads c.session raws (Session.fetchRow d.session).2 ∧
      List.Forall₂ (Converts (k.recordIn c)) raws rows') :
    Yields k c rows' ((d.took (Session.fetchRow d.session)).changed k f) where
  quiet := by
    obtain ⟨ms, hms⟩ := hd.quiet
    refine ⟨ms ++ (Session.fetchRow d.session).1.messages, ?_⟩
    show d.journal ++ (Session.fetchRow d.session).1.messages.map .heard = _
    rw [hms, List.map_append, List.append_assoc]
  conversions :=
    (recordIn_modifyCursor _ k.index k (·.conversions) hconversions).trans hd.conversions
  state := (recordIn_modifyCursor _ k.index k (·.state) hstate).trans hd.state
  isOpen := hd.isOpen
  allowed := hallowed
  converted := hrows

theorem gives_readRow (k : Cursor) (c : Connection σ) (rows : List (List Value)) :
    Gives (Yields k c rows) (k.readRow : Op σ (Option (List Value)))
      (fun row d => Yields k c (rows ++ row.toList) d) := by
  rw [gives_iff]
  intro d row d' hd hread
  obtain ⟨raws, hreads, hconverts⟩ := hd.converted
  rcases readRow_eq_ok hread with ⟨_, rfl, rfl⟩ | ⟨_, hresult, rfl, rfl⟩ |
    ⟨raw, values, hstate, husable, hresult, hconvert, rfl, rfl⟩
  · rw [Option.toList_none, List.append_nil]
    exact hd
  · rw [Option.toList_none, List.append_nil]
    exact hd.used _ (fun _ => rfl) (fun _ => rfl) hd.allowed
      ⟨raws, hreads.noRow hresult, hconverts⟩
  · have hopen : d.isOpen = true := isOpen_of_usable husable
    refine hd.used _ (fun _ => rfl) (fun _ => rfl)
      (fun _ => ⟨hd.state ▸ hstate, hd.isOpen ▸ hopen⟩)
      ⟨raws ++ [raw], hreads.row hresult, ?_⟩
    obtain ⟨conversions, hknown, hconverted⟩ := hconvert
    rw [hd.conversions] at hknown
    exact List.rel_append hconverts (.cons ⟨conversions, hknown, hconverted⟩ .nil)

theorem gives_readRows (k : Cursor) (c : Connection σ)
    (wanted : Nat → Except CompareError Bool) :
    Gives (Yields k c []) (k.readRows wanted : Op σ (List (List Value)))
      (fun rows d => Yields k c rows d) := by
  refine .looping (I := fun rows d => Yields k c rows d) (fun rows => ?_) []
  refine .bind (Q := fun _ d => Yields k c rows d)
    (.ofExcept (fun _ _ _ hd => hd) fun _ _ _ _ => trivial) fun more => ?_
  cases more with
  | false => exact .pure fun _ hd => hd
  | true =>
      refine .bind (gives_readRow k c rows) fun row => ?_
      cases row with
      | none => exact .pure fun _ hd => by simpa using hd
      | some values => exact .pure fun _ hd => hd

/-! ## Fetches -/

/-- The values of the rows of an answer. -/
def fetched : Answer → List (List Value)
  | .row r => [r.values]
  | .rows rs => rs.map (·.values)
  | .rowList l => l.values
  | _ => []

/-- A fetch starts where nothing was read. -/
theorem gives_checkResults (k : Cursor) (c : Connection σ) :
    Gives (fun d => d = c) (k.checkResults : Op σ Unit) (fun _ => Yields k c []) := by
  apply (walks_checkResults k).gives.strengthen
  intro d hd
  rw [hd]
  exact .start k c

theorem gives_fetchOne (k : Cursor) (c : Connection σ) :
    Gives (fun d => d = c) (k.fetchOne : Op σ (Option Row))
      (fun row d => Yields k c (row.map (·.values)).toList d) := by
  refine .bind (gives_checkResults k c) fun _ => .bind (gives_readRow k c []) fun row => ?_
  cases row with
  | none => exact .pure fun _ hd => hd
  | some values => exact .bind (walks_columnNames k).gives fun _ => .pure fun _ hd => hd

theorem gives_fetchWhile (k : Cursor) (c : Connection σ)
    (wanted : Nat → Except CompareError Bool) :
    Gives (Yields k c []) (k.fetchWhile wanted : Op σ RowList)
      (fun list d => Yields k c list.values d) :=
  .bind (gives_readRows k c wanted) fun _ => .bind (walks_columnNames k).gives fun _ =>
    .pure fun _ hd => hd

theorem gives_iterate (k : Cursor) (c : Connection σ) (limit : Option Nat) :
    Gives (fun d => d = c) (k.iterate limit : Op σ (List Row))
      (fun rows d => Yields k c (rows.map (·.values)) d) := by
  refine .bind (gives_checkResults k c) fun _ => .bind (gives_readRows k c _) fun rows => ?_
  refine .bind (walks_columnNames k).gives fun names => .pure fun d hd => ?_
  have hvalues : (rows.map (Row.mk names)).map (·.values) = rows := by
    rw [List.map_map]
    exact List.map_id rows
  exact hvalues.symm ▸ hd

/-- An answer without rows needs none to be read. -/
theorem gives_noRows {pre : Connection σ → Prop} {c : Connection σ} {answer : Answer}
    (h : fetched answer = []) :
    Gives pre (pure answer : Op σ Answer)
      (fun answer d => fetched answer ≠ [] → Yields k c (fetched answer) d) :=
  .pure fun _ _ hrows => absurd h hrows

theorem fetched_valueIn (c : Connection σ) (k : Cursor) (p : CursorProperty) :
    fetched (p.valueIn c k) = [] := by
  cases p with
  | description =>
      show fetched (((k.recordIn c).description.map .description).getD .nothing) = []
      cases (k.recordIn c).description with
      | none => rfl
      | some description => rfl
  | _ => rfl

/-- Whatever rows an action returns, it has read them itself. -/
theorem gives_perform (k : Cursor) (c : Connection σ) (a : CursorAction) :
    Gives (fun d => d = c) (a.perform k : Op σ Answer)
      (fun answer d => fetched answer ≠ [] → Yields k c (fetched answer) d) := by
  cases a with
  | fetchOne =>
      refine .bind (gives_fetchOne k c) fun row => ?_
      cases row with
      | none => exact gives_noRows rfl
      | some row => exact .pure fun _ hd _ => hd
  | fetchMany size =>
      refine .bind ?_ fun list => .pure fun _ hd _ => hd
      refine .bind (gives_checkResults k c) fun _ => .afterLook fun _ => ?_
      exact (gives_fetchWhile k c _).strengthen fun _ hd => hd.1
  | fetchAll =>
      refine .bind ?_ fun list => .pure fun _ hd _ => hd
      exact .bind (gives_checkResults k c) fun _ => gives_fetchWhile k c _
  | iterate limit => exact .bind (gives_iterate k c limit) fun _ => .pure fun _ hd _ => hd
  | execute sql parameters => exact .bind gives_anything fun _ => gives_noRows rfl
  | executeMany sql items => exact .bind gives_anything fun _ => gives_noRows rfl
  | callProcedure procedure arguments => exact .bind gives_anything fun _ => gives_noRows rfl
  | nextSet =>
      refine .bind gives_anything fun found => ?_
      cases found with
      | false => exact gives_noRows rfl
      | true => exact gives_noRows rfl
  | setSizes => exact .bind gives_anything fun _ => gives_noRows rfl
  | setArraySize value => exact .bind gives_anything fun _ => gives_noRows rfl
  | close => exact .bind gives_anything fun _ => gives_noRows rfl
  | read property =>
      show Gives _ (property.read k) _
      unfold CursorProperty.read
      split
      · exact .afterGet fun d => gives_noRows (fetched_valueIn d k property)
      · refine .bind gives_anything fun _ => ?_
        exact .afterGet fun d => gives_noRows (fetched_valueIn d k property)

end TdsClient.Cursor
