import TdsClient.Connection.BulkInsert
import TdsClient.Proofs.Binding.Reported
import TdsClient.Proofs.Text.Encoding

/-!
# Rows that are inserted

A row that is inserted into a table is a sequence with a value for each
column, or a mapping that names at least the columns that need a value.
Anything else is refused with an error that says what is wrong with it. A
row that is not refused is sent with one value for each column: unwrapped,
and text of a code page as the code page can hold it.

## Main definitions

* `IsRow` — what can be inserted.
* `convertedRow`, `lostCharacters` — what is sent of it, and what gets lost.
* `Refuses` — what is said of anything else.

## Main results

* `bulkRow_of_isRow` — a row is converted, and what gets lost is reported.
* `bulkRow_of_not_isRow` — anything else is refused.
-/

namespace TdsClient

/-- Whether each row must have a value for a column: it takes no null, and the server does not fill
it. -/
def Column.isRequired (c : Column) : Bool := !c.nullable && !c.identity

namespace Connection

/-! ## The values of a row -/

/-- The value that entries have for a column. -/
def given? (entries : List (Value × Value)) (c : Column) : Option Value :=
  (entries.find? fun entry => entry.1.isText c.name).map (·.2)

/-- Whether a value is missing among entries that a column needs. -/
def lacks (entries : List (Value × Value)) (c : Column) : Bool :=
  c.isRequired && (given? entries c).isNone

/-- A row that can be inserted: a mapping that has a value for every column that needs one, or a
sequence with one value for each column. -/
def IsRow (columns : List Column) (row : Value) : Prop :=
  match row.entries?, row.sequence? with
  | some entries, _ => ∀ c ∈ columns, c.isRequired = true → (given? entries c).isSome = true
  | none, some cells => cells.length = columns.length
  | none, none => False

instance (columns : List Column) (row : Value) : Decidable (IsRow columns row) :=
  match hentries : row.entries?, hcells : row.sequence? with
  | some entries, _ =>
    decidable_of_iff (∀ c ∈ columns, c.isRequired = true → (given? entries c).isSome = true)
      (by rw [IsRow, hentries])
  | none, some cells =>
    decidable_of_iff (cells.length = columns.length) (by rw [IsRow, hentries, hcells])
  | none, none => decidable_of_iff False (by rw [IsRow, hentries, hcells])

/-- The values of a row in the order of the columns: those of a sequence as they are, those of a
mapping by name, null where it has none. -/
def rowValues (columns : List Column) (row : Value) : List Value :=
  match row.entries?, row.sequence? with
  | some entries, _ => columns.map fun c => (given? entries c).getD .null
  | none, some cells => cells
  | none, none => []

/-- What is wrong with anything that is no row: the first column that lacks a value, the number of
values, or its kind. -/
inductive Refuses (columns : List Column) (number : Nat) (row : Value) : Error → Prop
  | missing {entries : List (Value × Value)} {c : Column} (hentries : row.entries? = some entries)
      (hfirst : columns.find? (lacks entries) = some c) :
      Refuses columns number row (.misuse (.missingColumn c.name))
  | count {cells : List Value} (hcells : row.sequence? = some cells)
      (hlength : cells.length ≠ columns.length) :
      Refuses columns number row (.interface (.columnCount number))
  | kind (hentries : row.entries? = none) (hcells : row.sequence? = none) :
      Refuses columns number row (.misuse (.invalidRow number))

theorem length_rowValues {columns : List Column} {row : Value} (hrow : IsRow columns row) :
    (rowValues columns row).length = columns.length := by
  unfold IsRow at hrow
  unfold rowValues
  cases hentries : row.entries? with
  | some entries => exact List.length_map ..
  | none =>
      rw [hentries] at hrow
      cases hcells : row.sequence? with
      | some cells =>
          rw [hcells] at hrow
          exact hrow
      | none =>
          rw [hcells] at hrow
          exact hrow.elim

/-- A column has the value that is given for it, and null unless it needs one. -/
theorem namedCell_eq (entries : List (Value × Value)) (c : Column) :
    namedCell entries c =
      if lacks entries c then .error (.misuse (.missingColumn c.name))
      else .ok ((given? entries c).getD .null) := by
  unfold namedCell lacks given? Column.isRequired
  cases entries.find? fun entry => entry.1.isText c.name with
  | some entry => simp
  | none => cases c.nullable <;> cases c.identity <;> rfl

/-- The columns of a mapping have their values unless one of them lacks a value, of which the first
one is reported. -/
theorem mapM_namedCell (entries : List (Value × Value)) (columns : List Column) :
    columns.mapM (namedCell entries) =
      match columns.find? (lacks entries) with
      | some c => .error (.misuse (.missingColumn c.name))
      | none => .ok (columns.map fun c => (given? entries c).getD .null) := by
  induction columns with
  | nil => rfl
  | cons c rest ih =>
      rw [List.mapM_cons, ih, namedCell_eq, List.find?_cons]
      cases lacks entries c with
      | true => rfl
      | false => cases rest.find? (lacks entries) <;> rfl

/-- A mapping is a row exactly if no column lacks a value. -/
theorem find?_lacks_eq_none_iff (entries : List (Value × Value)) (columns : List Column) :
    columns.find? (lacks entries) = none ↔
      ∀ c ∈ columns, c.isRequired = true → (given? entries c).isSome = true := by
  unfold lacks
  simp [Option.isSome_iff_ne_none]

/-- Rows have their values. -/
theorem rowCells_of_isRow {columns : List Column} {row : Value} (hrow : IsRow columns row)
    (number : Nat) : rowCells columns number row = .ok (rowValues columns row) := by
  unfold IsRow at hrow
  unfold rowCells rowValues
  cases hentries : row.entries? with
  | some entries =>
      rw [hentries] at hrow
      dsimp only
      rw [mapM_namedCell, (find?_lacks_eq_none_iff entries columns).2 hrow]
  | none =>
      rw [hentries] at hrow
      cases hcells : row.sequence? with
      | some cells =>
          rw [hcells] at hrow
          exact if_pos hrow
      | none =>
          rw [hcells] at hrow
          exact hrow.elim

/-- Anything else is refused. -/
theorem rowCells_of_not_isRow {columns : List Column} {row : Value} (hrow : ¬IsRow columns row)
    (number : Nat) :
    ∃ e, Refuses columns number row e ∧ rowCells columns number row = .error e := by
  unfold IsRow at hrow
  unfold rowCells
  cases hentries : row.entries? with
  | some entries =>
      rw [hentries] at hrow
      dsimp only
      rw [mapM_namedCell]
      cases hfirst : columns.find? (lacks entries) with
      | some c => exact ⟨_, .missing hentries hfirst, rfl⟩
      | none => exact absurd ((find?_lacks_eq_none_iff entries columns).1 hfirst) hrow
  | none =>
      rw [hentries] at hrow
      cases hcells : row.sequence? with
      | some cells =>
          rw [hcells] at hrow
          exact ⟨_, .count hcells hrow, if_neg hrow⟩
      | none => exact ⟨_, .kind hentries hcells, rfl⟩

/-! ## The values as they are sent -/

variable (i : Inference) (encode : Bool)

/-- Whether text for a column is sent as the code page can hold it. -/
def isEncoded (c : Column) : Bool := encode && c.typeCode ∈ TypeCode.singleByteStrings

/-- A value as it is sent for a column. -/
def convertedCell (c : Column) (value : Value) : Value :=
  match value.unwrap with
  | .text s => .text (if isEncoded encode c then i.charset.substitute s else s)
  | value => value

/-- The characters of a value that get lost on its way to a column. -/
def lostIn (c : Column) (value : Value) : List Char :=
  match value.unwrap with
  | .text s => if isEncoded encode c then i.charset.missing s else []
  | _ => []

/-- A row as it is sent. -/
def convertedRow (columns : List Column) (row : Value) : List Value :=
  List.zipWith (convertedCell i encode) columns (rowValues columns row)

/-- The characters that get lost of a row. -/
def lostCharacters (columns : List Column) (row : Value) : List Char :=
  (columns.zip (rowValues columns row)).flatMap fun (c, value) => lostIn i encode c value

/-- A row is sent with one value for each column. -/
theorem length_convertedRow {columns : List Column} {row : Value} (hrow : IsRow columns row) :
    (convertedRow i encode columns row).length = columns.length := by
  unfold convertedRow
  rw [List.length_zipWith, length_rowValues hrow, Nat.min_self]

/-- Anything else is refused. -/
theorem bulkRow_of_not_isRow {columns : List Column} {row : Value} (hrow : ¬IsRow columns row)
    (number : Nat) :
    ∃ e, Refuses columns number row e ∧ bulkRow i columns encode number row = .fail e := by
  obtain ⟨e, hrefuses, hcells⟩ := rowCells_of_not_isRow hrow number
  refine ⟨e, hrefuses, ?_⟩
  unfold bulkRow
  rw [hcells, Reported.bind_error _ rfl]
  rfl

variable {i encode}

/-- Only text for a code page is changed. -/
theorem convertedCell_of_not_encoded {c : Column} (hplain : isEncoded encode c = false)
    (value : Value) : convertedCell i encode c value = value.unwrap := by
  unfold convertedCell
  rw [hplain]
  cases value.unwrap <;> rfl

theorem convertedCell_of_encoded {c : Column} (hencoded : isEncoded encode c = true)
    {value : Value} {s : String} (htext : value.unwrap = .text s) :
    convertedCell i encode c value = .text (i.charset.substitute s) := by
  unfold convertedCell
  rw [htext, hencoded]
  rfl

/-- A value is converted, and the characters that get lost are reported, if the code page that text
is encoded in is known. -/
theorem sentCell_eq (c : Column) (value : Value)
    (hknown : ∀ s, value.unwrap = .text s → isEncoded encode c = true →
      i.charset.isKnown = true) :
    sentCell i encode c value =
      ⟨(lostIn i encode c value).map (.unrepresentable · i.charset.name),
        .ok (convertedCell i encode c value)⟩ := by
  unfold sentCell lostIn convertedCell
  cases htext : value.unwrap with
  | text s =>
      show (if isEncoded encode c = true then _ else _ : Reported Value) = _
      dsimp only
      by_cases hencoded : isEncoded encode c = true
      · obtain ⟨bytes, _, hbytes⟩ := i.encodeText_eq (hknown s htext hencoded) s
        rw [if_pos hencoded, if_pos hencoded, if_pos hencoded, hbytes, Reported.bind_ok _ rfl]
        exact congrArg (Reported.mk · _) (List.append_nil _)
      · rw [if_neg hencoded, if_neg hencoded, if_neg hencoded]
        rfl
  | _ => rfl

/-- A row is converted, and the characters that get lost are reported. -/
theorem bulkRow_of_isRow (hknown : encode = true → i.charset.isKnown = true)
    {columns : List Column} {row : Value} (hrow : IsRow columns row) (number : Nat) :
    bulkRow i columns encode number row =
      ⟨(lostCharacters i encode columns row).map (.unrepresentable · i.charset.name),
        .ok (convertedRow i encode columns row)⟩ := by
  unfold bulkRow lostCharacters convertedRow
  rw [rowCells_of_isRow hrow, Reported.bind_ok _ rfl,
    Reported.mapM_of_forall (fun cell _ => sentCell_eq cell.1 cell.2 fun _ _ hencoded =>
      hknown (Bool.and_eq_true_iff.1 hencoded).1), List.map_flatMap, List.map_zip_eq_zipWith]
  rfl

end Connection

end TdsClient
