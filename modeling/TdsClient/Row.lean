import TdsClient.Error
import TdsClient.Row.Member

/-!
# Rows

A row of a result is its values beside the column names of the result. It
is read by position, counted from either end, by name, and as an
attribute. Of several columns with one name the first is found; a column
without a name cannot be found by name.

As a dictionary a row has each name once, at its first place, with the
value of its last column.

## Main definitions

* `ColumnIndex` — the places of column names.
* `Row.getAt`, `Row.named`, `Row.attr` — single values.
* `Row.entries` — the row as a dictionary.

## Main results

* `lookup_ofNames`, `position?_eq_some_iff` — which column a name finds.
-/

namespace TdsClient

/-- The places of column names, each name once. -/
abbrev ColumnIndex := List (String × Nat)

namespace ColumnIndex

/-- Gives a name a place unless it has one. -/
def setDefault (index : ColumnIndex) (name : String) (place : Nat) : ColumnIndex :=
  if (index.lookup name).isSome then index else index ++ [(name, place)]

/-- Gives names their places, from the place of the first on. An empty name has none. -/
def extend (index : ColumnIndex) (place : Nat) : List String → ColumnIndex
  | [] => index
  | name :: rest =>
    extend (if name = "" then index else index.setDefault name place) (place + 1) rest

/-- The index of the columns of a result. -/
def ofNames (names : List String) : ColumnIndex := extend [] 0 names

theorem lookup_setDefault (index : ColumnIndex) (name : String) (place : Nat) (wanted : String) :
    (index.setDefault name place).lookup wanted =
      (index.lookup wanted).or (if wanted = name then some place else none) := by
  unfold setDefault
  split
  next hpresent =>
    obtain ⟨first, hfirst⟩ := Option.isSome_iff_exists.1 hpresent
    split
    next hname => simp [hname, hfirst]
    · simp
  · have hlast : List.lookup wanted [(name, place)] =
        if wanted = name then some place else none := by
      by_cases hname : wanted = name
      · simp [hname]
      · rw [List.lookup_cons, if_neg hname, beq_eq_false_iff_ne.2 hname, List.lookup_nil]
    rw [List.lookup_append, hlast]

/-- A place that a name has is kept, and a later name gets the first place where it stands. -/
theorem lookup_extend (index : ColumnIndex) (place : Nat) (names : List String) (wanted : String) :
    (index.extend place names).lookup wanted =
      (index.lookup wanted).or
        (if wanted = "" then none else (names.idxOf? wanted).map (· + place)) := by
  induction names generalizing index place with
  | nil => simp [extend]
  | cons name rest ih =>
    have hplaces : ((name :: rest).idxOf? wanted).map (· + place) =
        if wanted = name then some place else (rest.idxOf? wanted).map (· + (place + 1)) := by
      rw [List.idxOf?_cons]
      by_cases hname : wanted = name
      · simp [hname]
      · rw [if_neg hname, if_neg (by simpa using Ne.symm hname), Option.map_map]
        exact congrArg (Option.map · _) (funext fun n => by simp only [Function.comp_apply]; omega)
    rw [extend, ih, hplaces]
    by_cases hempty : name = ""
    · by_cases hwanted : wanted = "" <;> simp [hempty, hwanted]
    · rw [if_neg hempty, lookup_setDefault]
      by_cases hname : wanted = name <;> simp [hname, hempty]

/-- The index has for a name the first column with that name. -/
theorem lookup_ofNames (names : List String) (wanted : String) :
    (ofNames names).lookup wanted = if wanted = "" then none else names.idxOf? wanted := by
  simp [ofNames, lookup_extend]

end ColumnIndex

/-- A row with the column names of its result. -/
structure Row where
  names : List String
  values : List Value

/-- Why a row or a list of rows does not give a value. -/
inductive RowError
  | outOfRange
  | noColumn (name : String)
  | noAttribute (name : String)
  | columnWithoutValue
  | slicing
  | badKey
  | zeroStep
  | notCopyable
  | sumTooLarge
  | comparison (cause : CompareError)
deriving DecidableEq

/-- The wording, for the errors that have one of their own. -/
def RowError.text? : RowError → Option String
  | .outOfRange => some "index is out of range"
  | .noColumn name => some name
  | .noAttribute name => some ("'Row' object has no attribute '" ++ name ++ "'")
  | .slicing => some "slicing is not supported"
  | _ => none

/-- The kind of an error. -/
def RowError.kind : RowError → ErrorKind
  | .outOfRange => .badIndex
  | .noColumn _ => .missingKey
  | .noAttribute _ => .missingAttribute
  | .columnWithoutValue => .badIndex
  | .slicing => .wrongType
  | .badKey => .wrongType
  | .zeroStep => .wrongValue
  | .notCopyable => .wrongType
  | .sumTooLarge => .decimalOverflow
  | .comparison cause => cause.kind

/-- The place of an index in a sequence; a negative one counts from the end. -/
def resolveIndex? (length : Nat) (index : Int) : Option Nat :=
  let place := if index < 0 then index + length else index
  if 0 ≤ place ∧ place < length then some place.toNat else none

/-- An attribute of a row: a value, or something else of a kind. -/
inductive Attribute
  | value (v : Value)
  | other (kind : String)

namespace Row

/-- Number of values. -/
def size (r : Row) : Nat := r.values.length

/-- The column of a name. -/
def position? (r : Row) (name : String) : Option Nat :=
  (ColumnIndex.ofNames r.names).lookup name

/-- The value at a place. -/
def getAt (r : Row) (index : Int) : Except RowError Value :=
  match resolveIndex? r.size index with
  | some place =>
    match r.values[place]? with
    | some value => .ok value
    | none => .error .outOfRange
  | none => .error .outOfRange

/-- The value at the place of a column. -/
def valueAt (r : Row) (place : Nat) : Except RowError Value :=
  match r.values[place]? with
  | some value => .ok value
  | none => .error .columnWithoutValue

/-- The value of the column of a name. -/
def named (r : Row) (name : String) : Except RowError Value :=
  match r.position? name with
  | some place => r.valueAt place
  | none => .error (.noColumn name)

/-- The value for a key, which is a place or a name. -/
def get (r : Row) : Value → Except RowError Value
  | .text name => r.named name
  | .int index => r.getAt index
  | .bool b => r.getAt b.toNat
  | _ => .error .badKey

/-- What a name gives for every row, whatever its columns. -/
def member? (r : Row) (name : String) : Option Attribute :=
  if name = RowMember.values then some (.value (.list r.values))
  else if name = "__slots__" then
    some (.value (.tuple [.text RowMember.columns, .text RowMember.values]))
  else
    match RowMember.text? name with
    | some text => some (.value (.text text))
    | none => (RowMember.kind? name).map .other

/-- The attribute of a name: a member of the row, or else the value of a column. -/
def attr (r : Row) (name : String) : Except RowError Attribute :=
  match r.member? name with
  | some found => .ok found
  | none =>
    match r.position? name with
    | some place => (r.valueAt place).map .value
    | none => .error (.noAttribute name)

/-- The attribute that a value names; names are texts. -/
def attrOf (r : Row) : Value → Except RowError Attribute
  | .text name => r.attr name
  | _ => .error .badKey

/-- Whether one of the values equals a value. -/
def contains (r : Row) (value : Value) : Except RowError Bool :=
  go r.values
where
  /-- Looks at the values in order. -/
  go : List Value → Except RowError Bool
    | [] => .ok false
    | v :: rest =>
      match v.equal value with
      | .ok true => .ok true
      | .ok false => go rest
      | .error cause => .error (.comparison cause)

/-- Entries with one more; a name that is there keeps its place and takes the new value. -/
def insertNamed (name : String) (value : Value) : List (String × Value) → List (String × Value)
  | [] => [(name, value)]
  | (name', value') :: rest =>
    if name' = name then (name', value) :: rest
    else (name', value') :: insertNamed name value rest

/-- The row as a dictionary. Columns without a value are left out. -/
def entries (r : Row) : List (String × Value) :=
  (r.names.zip r.values).foldl (fun d entry => insertNamed entry.1 entry.2 d) []

/-- The expression that shows a row. -/
def literal (r : Row) : String := applied "Row" (r.values.map Value.literal)

/-- A copy of a row that shares its values. -/
def copy (r : Row) : Row := r

/-- A copy of a row by taking it apart and putting it together again. -/
def rebuild (r : Row) : Except RowError Row :=
  if r.values.all Value.isCopyable then .ok r else .error .notCopyable

/-- The column that is asked first how to copy a row. -/
def copierName : String := "__deepcopy__"

/-- A copy of a row with copies of its values. A column that has the name of a copier is asked to
copy the row unless it is null; no value can. -/
def deepCopy (r : Row) : Except RowError Row :=
  match r.position? copierName with
  | some place =>
    match r.valueAt place with
    | .ok .null => r.rebuild
    | .ok _ => .error .notCopyable
    | .error e => .error e
  | none => r.rebuild

/-- A name finds a column if and only if the column has it, no earlier one does, and the name
is not empty. -/
theorem position?_eq_some_iff (r : Row) (name : String) (place : Nat) :
    r.position? name = some place ↔
      name ≠ "" ∧ r.names[place]? = some name ∧ ∀ i < place, r.names[i]? ≠ some name := by
  rw [position?, ColumnIndex.lookup_ofNames]
  split
  next h => simp [h]
  next h =>
    simp only [ne_eq, h, not_false_eq_true, true_and]
    simp only [List.idxOf?, List.findIdx?_eq_some_iff_getElem, beq_iff_eq,
      List.getElem?_eq_some_iff]
    constructor
    · rintro ⟨bound, eq, first⟩
      exact ⟨⟨bound, eq⟩, fun i hi ⟨_, eq⟩ => by simpa [eq] using first i hi⟩
    · rintro ⟨⟨bound, eq⟩, first⟩
      exact ⟨bound, eq, fun i hi => by simpa using fun eq => first i hi ⟨by omega, eq⟩⟩

end Row

end TdsClient
