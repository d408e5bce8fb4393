import TdsClient.Proofs.Cursor.View

/-!
# What fetches take from a result set

Reading a row may raise a warning that came with it, if the connection
raises warnings. The row has left the session by then. So has every row that
the same fetch read before it, and none of them is kept anywhere.

Each fetch therefore takes a block of rows: those it is asked for, or up to
the first one that raises, that one included. If no row of the block raises,
the fetch returns it, else the fetch raises, and the block is lost. The
blocks of fetches in a row are one after the other, without gaps and without
overlap. This is described here without a session and without a cursor.

## Main definitions

* `DeliveredRow` — a row, and the warning that reading it raises, if any.
* `RowCall` — the calls that read rows.
* `Fetch.block`, `Fetch.outcome` — what a fetch takes, and what it returns.
* `blocks`, `outcomes` — the same for fetches one after the other.

## Main results

* `flatten_blocks_isPrefix` — the blocks are the first rows, in order.
* `rowsIn_outcomes` — the rows returned are those of the blocks that raise nothing.
-/

namespace TdsClient

/-- A row as a program would see it, and the warning that is raised when it is read, if any. -/
structure DeliveredRow where
  values : List Value
  warning : Option Warning := none

/-- The first warning that reading rows raises, if any does. -/
def raised? (rows : List DeliveredRow) : Option Warning := rows.findSome? (·.warning)

/-- The rows up to the first one that raises a warning, that one included. -/
def upToRaised : List DeliveredRow → List DeliveredRow
  | [] => []
  | r :: rest => if r.warning.isSome then [r] else r :: upToRaised rest

theorem raised?_append_of_none {before : List DeliveredRow} (h : raised? before = none)
    (rest : List DeliveredRow) : raised? (before ++ rest) = raised? rest := by
  unfold raised? at h ⊢
  rw [List.findSome?_append, h, Option.none_or]

/-- Rows that raise nothing are passed over. -/
theorem upToRaised_append_of_none {before : List DeliveredRow} (h : raised? before = none)
    (rest : List DeliveredRow) : upToRaised (before ++ rest) = before ++ upToRaised rest := by
  induction before with
  | nil => rfl
  | cons r before ih =>
      have hr : r.warning = none := List.findSome?_eq_none_iff.1 h r List.mem_cons_self
      have hbefore : raised? before = none := List.findSome?_eq_none_iff.2 fun b hb =>
        List.findSome?_eq_none_iff.1 h b (List.mem_cons_of_mem r hb)
      rw [List.cons_append, upToRaised, hr]
      exact congrArg (r :: ·) (ih hbefore)

theorem upToRaised_eq_self {rows : List DeliveredRow} (h : raised? rows = none) :
    upToRaised rows = rows := by
  simpa [upToRaised] using upToRaised_append_of_none h []

theorem upToRaised_isPrefix (rows : List DeliveredRow) : upToRaised rows <+: rows := by
  induction rows with
  | nil => exact List.prefix_rfl
  | cons r rest ih =>
      rw [upToRaised]
      split
      · exact ⟨rest, rfl⟩
      · exact (List.prefix_cons_inj r).2 ih

/-- A warning is raised by the last of the rows that were read. -/
theorem raised_last {rows : List DeliveredRow} {w : Warning}
    (h : raised? (upToRaised rows) = some w) :
    ∃ before r, upToRaised rows = before ++ [r] ∧ raised? before = none ∧ r.warning = some w := by
  induction rows with
  | nil => cases h
  | cons r rest ih =>
      cases hr : r.warning with
      | some v =>
          have hblock : upToRaised (r :: rest) = [r] := by simp [upToRaised, hr]
          have hvw : v = w := by simpa [hblock, raised?, hr] using h
          exact ⟨[], r, hblock, rfl, hvw ▸ hr⟩
      | none =>
          have hblock : upToRaised (r :: rest) = r :: upToRaised rest := by simp [upToRaised, hr]
          have hrest : raised? (upToRaised rest) = some w := by simpa [hblock, raised?, hr] using h
          obtain ⟨before, last, hsplit, hcalm, hlast⟩ := ih hrest
          refine ⟨r :: before, last, ?_, ?_, hlast⟩
          · rw [hblock, hsplit, List.cons_append]
          · simpa [raised?, hr] using hcalm

/-! ## Fetches -/

/-- The calls that read rows: of one row, of several, their number left open or not, of all that
are left, and of the next one of an iteration. -/
inductive RowCall
  | one
  | many (size : Option Int)
  | all
  | next

namespace RowCall

/-- The action of a call. -/
def action : RowCall → CursorAction
  | .one => .fetchOne
  | .many none => .fetchMany .null
  | .many (some n) => .fetchMany (.int n)
  | .all => .fetchAll
  | .next => .iterate (some 1)

/-- What a call fetches, if a number of rows stands for one that is left open. -/
def fetch (arraySize : Int) : RowCall → Fetch
  | .one => .one
  | .many size => .many (size.getD arraySize)
  | .all => .all
  | .next => .iterate (some 1)

end RowCall

namespace Fetch

/-- The rows that a fetch takes, of those that are left. -/
def block (f : Fetch) (rows : List DeliveredRow) : List DeliveredRow :=
  upToRaised (rows.take (f.count rows.length))

/-- What a fetch returns or raises. -/
def outcome (f : Fetch) (names : List String) (rows : List DeliveredRow) : Except Error Answer :=
  match raised? (f.block rows) with
  | some w => .error (.warning w)
  | none => .ok (f.answer names ((f.block rows).map (·.values)))

theorem block_isPrefix (f : Fetch) (rows : List DeliveredRow) : f.block rows <+: rows :=
  (upToRaised_isPrefix _).trans (List.take_prefix ..)

theorem block_one_cons (r : DeliveredRow) (rest : List DeliveredRow) :
    Fetch.one.block (r :: rest) = [r] := by
  have hcount : Fetch.one.count (r :: rest).length = 1 := by
    show min 1 (rest.length + 1) = 1
    omega
  unfold block
  rw [hcount]
  simp [upToRaised]

/-- The rows that a fetch returns are those it takes, unless it raises. -/
theorem rowsIn_outcome (f : Fetch) (names : List String) (rows : List DeliveredRow) :
    View.rowsIn (f.outcome names rows) =
      if raised? (f.block rows) = none then (f.block rows).map (·.values) else [] := by
  unfold outcome
  cases hraised : raised? (f.block rows) with
  | some w => rfl
  | none =>
      rw [if_pos rfl]
      cases f with
      | one =>
          cases rows with
          | nil => rfl
          | cons r rest =>
              rw [block_one_cons]
              rfl
      | many n => rfl
      | all => rfl
      | iterate limit =>
          show (List.map _ ((Fetch.iterate limit).block rows |>.map (·.values))).map _ = _
          rw [List.map_map]
          exact List.map_id _

end Fetch

/-! ## Fetches one after the other -/

/-- The blocks that fetches take. -/
def blocks : List Fetch → List DeliveredRow → List (List DeliveredRow)
  | [], _ => []
  | f :: rest, rows => f.block rows :: blocks rest (rows.drop (f.block rows).length)

/-- What fetches return or raise. -/
def outcomes (names : List String) : List Fetch → List DeliveredRow → List (Except Error Answer)
  | [], _ => []
  | f :: rest, rows =>
    f.outcome names rows :: outcomes names rest (rows.drop (f.block rows).length)

/-- Each block starts where the one before it ends, the first one at the first row. -/
theorem flatten_blocks_isPrefix (fetches : List Fetch) (rows : List DeliveredRow) :
    (blocks fetches rows).flatten <+: rows := by
  induction fetches generalizing rows with
  | nil => exact List.nil_prefix
  | cons f rest ih =>
      have hrest := ih (rows.drop (f.block rows).length)
      have hfirst : f.block rows ++ rows.drop (f.block rows).length = rows :=
        List.prefix_iff_eq_append.1 (f.block_isPrefix rows)
      rw [blocks, List.flatten_cons]
      conv_rhs => rw [← hfirst]
      exact (List.prefix_append_right_inj _).2 hrest

/-- Of the blocks of several fetches, those that raise nothing are returned. -/
theorem rowsIn_outcomes (names : List String) (fetches : List Fetch) (rows : List DeliveredRow) :
    (outcomes names fetches rows).flatMap View.rowsIn =
      ((blocks fetches rows).filter fun b => (raised? b).isNone).flatten.map (·.values) := by
  induction fetches generalizing rows with
  | nil => rfl
  | cons f rest ih =>
      rw [outcomes, blocks, List.flatMap_cons, ih, Fetch.rowsIn_outcome]
      cases hraised : raised? (f.block rows) with
      | some w => simp [hraised]
      | none => simp [hraised]

/-- The block of a fetch that raises ends with the row that the warning came with. -/
theorem raised_last_of_mem_blocks {fetches : List Fetch} {rows : List DeliveredRow}
    {block : List DeliveredRow} (hblock : block ∈ blocks fetches rows) {w : Warning}
    (hw : raised? block = some w) :
    ∃ before r, block = before ++ [r] ∧ raised? before = none ∧ r.warning = some w := by
  induction fetches generalizing rows with
  | nil => cases hblock
  | cons f rest ih =>
      rcases List.mem_cons.1 hblock with rfl | hblock
      · exact raised_last hw
      · exact ih hblock

end TdsClient
