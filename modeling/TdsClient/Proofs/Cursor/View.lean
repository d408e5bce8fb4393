import Mathlib.Data.List.Forall2
import Mathlib.Data.List.ReduceOption
import TdsClient.Proofs.Cursor.Rows
import TdsClient.Proofs.Session.Response

/-!
# What a program sees of a response

Of the results of a response a program sees those that have columns, one
after the other. It fetches rows of the one it is at, in parts of any size,
and leaves it for the next one whenever it likes. What it gets is described
here without a session and without a cursor: a list of result sets, and how
many rows of the first one were returned.

## Main definitions

* `Presents` — what a program sees of a result.
* `Fetch` — the ways to fetch rows.
* `View` — how far a program has got, and what it is told there.

## Main results

* `View.rows_fetches` — fetches return the rows of a result set in order, each once.
* `View.afterAll_fetches` — the row number counts them.
-/

namespace TdsClient

/-- A result set as a program sees it. -/
structure ResultSet where
  description : List ColumnDescription
  names : List String
  rows : List (List Value)

/-- What a program sees of a result: nothing of a bare row count, and of a set that has columns, all
of which are supported, their descriptions and its rows, all of which can be converted. -/
inductive Presents (version : Version) : ServerResult → Option ResultSet → Prop
  | count : Presents version .count none
  | set {columns supported : List Column} {raws rows : List (List Value)} (hsome : columns ≠ [])
      (hsupported : columns.mapM (Column.normalize version) = .ok supported)
      (hrows : List.Forall₂
        (fun raw row => Column.convertRow (Column.conversions supported) raw = .ok row) raws rows) :
      Presents version (.set columns raws)
        (some ⟨supported.map Column.describe, supported.map (·.name), rows⟩)

/-! ## Fetches -/

/-- The ways to fetch rows. -/
inductive Fetch
  | one
  | many (n : Int)
  | all
  | iterate (limit : Option Nat)

namespace Fetch

/-- The action of a fetch. -/
def action : Fetch → CursorAction
  | .one => .fetchOne
  | .many n => .fetchMany (.int n)
  | .all => .fetchAll
  | .iterate limit => .iterate limit

/-- How many rows are returned when some are left. -/
def count (f : Fetch) (left : Nat) : Nat :=
  match f with
  | .one => min 1 left
  | .many n => min (max n 0).toNat left
  | .all => left
  | .iterate (some limit) => min limit left
  | .iterate none => left

/-- How rows are returned. -/
def answer (names : List String) (rows : List (List Value)) : Fetch → Answer
  | .one => match rows with
    | [] => .nothing
    | row :: _ => .row ⟨names, row⟩
  | .many _ => .rowList (.ofValues names rows)
  | .all => .rowList (.ofValues names rows)
  | .iterate _ => .rows (rows.map fun row => ⟨names, row⟩)

theorem count_le (f : Fetch) (left : Nat) : f.count left ≤ left := by
  cases f with
  | one => exact Nat.min_le_right _ _
  | many n => exact Nat.min_le_right _ _
  | all => exact Nat.le_refl _
  | iterate limit =>
      cases limit with
      | none => exact Nat.le_refl _
      | some limit => exact Nat.min_le_right _ _

end Fetch

/-! ## Views -/

/-- What a program does with a response: it fetches rows, goes on to the next result set, or looks
at the description of the current one or at its row number. -/
inductive Step
  | fetch (f : Fetch)
  | nextSet
  | description
  | rowNumber

/-- The action of a step. -/
def Step.action : Step → CursorAction
  | .fetch f => f.action
  | .nextSet => .nextSet
  | .description => .read .description
  | .rowNumber => .read .rowNumber

/-- How far a program has got in a response: it is at a result set, of which some rows were
returned, whose rows are numbered or not, and before others; or at the end. -/
inductive View
  | onSet (set : ResultSet) (returned : Nat) (numbered : Bool) (later : List ResultSet)
  | ended

namespace View

/-- At the first of some result sets. -/
def first (numbered : Bool) : List ResultSet → View
  | [] => .ended
  | set :: later => .onSet set 0 numbered later

/-- The rows that a fetch returns. -/
def rows (set : ResultSet) (returned : Nat) (f : Fetch) : List (List Value) :=
  (set.rows.drop returned).take (f.count (set.rows.length - returned))

/-- What a program is told at a step. -/
def reply : View → Step → Except Error Answer
  | .onSet set returned _ _, .fetch f => .ok (f.answer set.names (rows set returned f))
  | .onSet _ _ _ [], .nextSet => .ok .nothing
  | .onSet _ _ _ (_ :: _), .nextSet => .ok (.value (.bool true))
  | .onSet set _ _ _, .description => .ok (.description set.description)
  | .onSet _ returned true _, .rowNumber => .ok (.value (.int returned))
  | .onSet _ _ false _, .rowNumber => .ok .nothing
  | .ended, .fetch _ => .error (.interface .noResults)
  | .ended, _ => .ok .nothing

/-- Where a step leads. The rows of a later result set are numbered once one was returned. -/
def after : View → Step → View
  | .onSet set returned numbered later, .fetch f =>
    .onSet set (returned + (rows set returned f).length)
      (numbered || 0 < (rows set returned f).length) later
  | .onSet _ _ _ later, .nextSet => first false later
  | view, _ => view

/-- What a program is told at steps one after the other. -/
def replies : View → List Step → List (Except Error Answer)
  | _, [] => []
  | view, step :: rest => view.reply step :: (view.after step).replies rest

/-- Where steps lead. -/
def afterAll (view : View) (steps : List Step) : View := steps.foldl after view

/-- The rows in a reply. -/
def rowsIn : Except Error Answer → List (List Value)
  | .ok answer => Cursor.fetched answer
  | .error _ => []

theorem length_rows (set : ResultSet) (returned : Nat) (f : Fetch) :
    (rows set returned f).length = f.count (set.rows.length - returned) := by
  unfold rows
  rw [List.length_take, List.length_drop]
  exact Nat.min_eq_left (f.count_le _)

/-- A fetch of one row returns the next one, if there is one. -/
theorem rows_one (set : ResultSet) (returned : Nat) :
    rows set returned .one = (set.rows[returned]?).toList := by
  show (set.rows.drop returned).take (min 1 (set.rows.length - returned)) = _
  cases hrow : set.rows[returned]? with
  | none =>
      rw [List.drop_eq_nil_of_le (List.getElem?_eq_none_iff.1 hrow), List.take_nil]
      rfl
  | some row =>
      obtain ⟨hlength, hvalue⟩ := List.getElem?_eq_some_iff.1 hrow
      have hone : min 1 (set.rows.length - returned) = 1 := by omega
      rw [hone, List.drop_eq_getElem_cons hlength, hvalue]
      rfl

/-- The rows of a fetch are those in the reply to it. -/
theorem rowsIn_fetch (set : ResultSet) (returned : Nat) (numbered : Bool) (later : List ResultSet)
    (f : Fetch) :
    rowsIn ((onSet set returned numbered later).reply (.fetch f)) = rows set returned f := by
  cases f with
  | one =>
      show Cursor.fetched (Fetch.answer set.names (rows set returned .one) .one) = _
      rw [rows_one]
      cases set.rows[returned]? with
      | none => rfl
      | some row => rfl
  | many n => rfl
  | all => rfl
  | iterate limit =>
      show (List.map _ (rows set returned (.iterate limit))).map _ = _
      rw [List.map_map]
      exact List.map_id _

/-- However many fetches there are, they return the rows of the result set in order, each once. -/
theorem rows_fetches (set : ResultSet) (returned : Nat) (numbered : Bool) (later : List ResultSet)
    (fetches : List Fetch) :
    ((onSet set returned numbered later).replies (fetches.map .fetch)).flatMap rowsIn <+:
      set.rows.drop returned := by
  induction fetches generalizing returned numbered with
  | nil => exact List.nil_prefix
  | cons f rest ih =>
      have hrest := ih (returned + (rows set returned f).length)
        (numbered || 0 < (rows set returned f).length)
      rw [← List.drop_drop] at hrest
      have hfirst : rows set returned f ++
          (set.rows.drop returned).drop (rows set returned f).length = set.rows.drop returned := by
        rw [length_rows]
        exact List.take_append_drop _ _
      show rowsIn ((onSet set returned numbered later).reply (.fetch f)) ++ _ <+: _
      rw [rowsIn_fetch, ← hfirst]
      exact (List.prefix_append_right_inj _).2 hrest

/-- The row number counts the rows that were returned. -/
theorem afterAll_fetches (set : ResultSet) (returned : Nat) (numbered : Bool)
    (later : List ResultSet) (fetches : List Fetch) :
    ∃ total, total =
        (((onSet set returned numbered later).replies (fetches.map .fetch)).flatMap rowsIn).length ∧
      (onSet set returned numbered later).afterAll (fetches.map .fetch) =
        .onSet set (returned + total) (numbered || 0 < total) later := by
  induction fetches generalizing returned numbered with
  | nil =>
      refine ⟨0, rfl, ?_⟩
      show onSet set returned numbered later = _
      simp
  | cons f rest ih =>
      obtain ⟨total, htotal, hafter⟩ := ih (returned + (rows set returned f).length)
        (numbered || 0 < (rows set returned f).length)
      refine ⟨(rows set returned f).length + total, ?_, ?_⟩
      · show _ = (rowsIn ((onSet set returned numbered later).reply (.fetch f)) ++ _).length
        rw [rowsIn_fetch, List.length_append, htotal]
        rfl
      · refine hafter.trans ?_
        rw [Nat.add_assoc, Bool.or_assoc]
        have hpositive : (decide (0 < (rows set returned f).length) || decide (0 < total)) =
            decide (0 < (rows set returned f).length + total) := by
          rw [Bool.eq_iff_iff, Bool.or_eq_true, decide_eq_true_iff, decide_eq_true_iff,
            decide_eq_true_iff]
          omega
        rw [hpositive]

end View

end TdsClient
