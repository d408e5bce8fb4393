/-!
# Names that rows keep for themselves

Every row has members besides its columns: its operations, its two parts,
and what all objects have. Their names win over columns of the same name.
A member that is no value is known by its kind only.

## Main definitions

* `RowMember.kind?` — the kind of the member of a name.
-/

namespace TdsClient.RowMember

/-- The operations of rows. -/
def methods : List String := [
  "dict", "keys", "__init__", "__len__", "__getitem__", "__getattr__", "__contains__", "__iter__",
  "__repr__"]

/-- The operations that all objects have, bound to the row. -/
def wrappers : List String := [
  "__delattr__", "__eq__", "__ge__", "__getattribute__", "__gt__", "__hash__", "__le__", "__lt__",
  "__ne__", "__setattr__", "__str__"]

/-- The operations that all objects have and that are functions of their own. -/
def functions : List String := [
  "__dir__", "__format__", "__getstate__", "__init_subclass__", "__new__", "__reduce__",
  "__reduce_ex__", "__sizeof__", "__subclasshook__"]

/-- The part of a row that holds its values. -/
def values : String := "_values"

/-- The part of a row that holds the columns of its result. -/
def columns : String := "_columns"

/-- The kind of the member of a name, for members that are no values. -/
def kind? (name : String) : Option String :=
  if name ∈ methods then some "method"
  else if name ∈ wrappers then some "method-wrapper"
  else if name ∈ functions then some "builtin_function_or_method"
  else if name = columns then some "ColumnIndex"
  else if name = "__class__" then some "type"
  else none

/-- The description of rows. -/
def description : String :=
  "\n    A single row of a result set.\n\n" ++
    "    Columns can be accessed by position, ``row[0]``, by name, ``row['name']``,\n" ++
    "    or as attributes, ``row.name``.\n    "

/-- The text that a name gives for every row. -/
def text? (name : String) : Option String :=
  if name = "__doc__" then some description
  else if name = "__module__" then some "tdsbind.rows"
  else none

end TdsClient.RowMember
