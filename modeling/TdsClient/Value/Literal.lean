import TdsClient.Text.Quoted
import TdsClient.Value.Basic

/-!
# Written forms of values

A value has two written forms. `Value.literal` is the expression that
makes it, used wherever a value appears inside another. `Value.display` is
what messages show: text as it is, and numbers, dates and identifiers
without the name of their kind around them.

## Main results

* `literal_list`, `literal_tuple` — a container is written from the
  literals of its items.
-/

namespace TdsClient

open Number

/-- The arguments that make a date. -/
def Date.arguments (d : Date) : List String := d.fields.map Digits.text

/-- The arguments that make a time: hour and minute, and the second and microsecond unless
they end in zeros. -/
def Time.arguments (t : Time) : List String :=
  [Digits.text t.hour, Digits.text t.minute] ++
    (if t.microsecond ≠ 0 then [Digits.text t.second, Digits.text t.microsecond]
     else if t.second ≠ 0 then [Digits.text t.second]
     else [])

/-- An expression applying a name to arguments. -/
def applied (name : String) (arguments : List String) : String :=
  name ++ "(" ++ ", ".intercalate arguments ++ ")"

namespace Value

/-- The literal of a fixed value. -/
def foreignLiteral : Foreign → String
  | .complex => "(1+2j)"
  | .object => "<object object>"
  | .duration => "datetime.timedelta(days=1)"
  | .range => "range(0, 2)"

/-- Items between brackets; a single item of a tuple is followed by a comma. -/
def tupleLiteral (items : List String) : String :=
  match items with
  | [item] => "(" ++ item ++ ",)"
  | items => "(" ++ ", ".intercalate items ++ ")"

/-- Items between braces; without items the literal would be that of a dictionary. -/
def setLiteral (items : List String) : String :=
  if items.isEmpty then "set()" else "\x7b" ++ ", ".intercalate items ++ "\x7d"

/-- The literal of an optional value. -/
def optionLiteral {α : Type} (literal : α → String) : Option α → String
  | none => "None"
  | some a => literal a

/-- The argument that gives a wrapper an explicit size. -/
def sizeArgument : Option Nat → List String
  | none => []
  | some size => ["size=" ++ Digits.text size]

mutual

/-- The expression that makes a value. -/
def literal : Value → String
  | .null => "None"
  | .bool b => if b then "True" else "False"
  | .int n => toString n
  | .float x => x.text
  | .decimal d => applied "Decimal" [Text.Quoted.ofText d.text]
  | .text s => Text.Quoted.ofText s
  | .bytes b => Text.Quoted.ofBytes b
  | .byteArray b => applied "bytearray" [Text.Quoted.ofBytes b]
  | .memoryView _ => "<memory>"
  | .dateTime t => applied "datetime.datetime" (t.date.arguments ++ t.time.arguments)
  | .date d => applied "datetime.date" d.arguments
  | .time t => applied "datetime.time" t.arguments
  | .uuid u => applied "UUID" [Text.Quoted.ofText u.text]
  | .list items => "[" ++ ", ".intercalate (literals items) ++ "]"
  | .tuple items => tupleLiteral (literals items)
  | .dictionary entries => "\x7b" ++ ", ".intercalate (entryLiterals entries) ++ "\x7d"
  | .set items => setLiteral (literals items)
  | .stream _ => "<generator object>"
  | .foreign kind => foreignLiteral kind
  | .parameter value output =>
    applied "Parameter" ([literal value] ++ (if output then ["output=True"] else []))
  | .typed w => typedLiteral w

/-- The expression that makes a wrapper. -/
def typedLiteral : Typed Value → String
  | .untyped value _ => applied "SqlType" [literal value]
  | .integer width value =>
    applied (Typed.integer (α := Value) width value).name [optionLiteral toString value]
  | .decimal value precision scale =>
    applied "SqlDecimal"
      [literal value, "precision=" ++ Digits.text precision, "scale=" ++ Digits.text scale]
  | .binary value => applied "SqlBinary" [optionLiteral Text.Quoted.ofBytes value]
  | .varBinary value size =>
    applied "SqlVarBinary" (optionLiteral Text.Quoted.ofBytes value :: sizeArgument size)
  | .char value => applied "SqlChar" [optionLiteral Text.Quoted.ofText value]
  | .varChar value size =>
    applied "SqlVarChar" (optionLiteral Text.Quoted.ofText value :: sizeArgument size)
  | .nvarChar value size =>
    applied "SqlNVarChar" (optionLiteral Text.Quoted.ofText value :: sizeArgument size)
  | .date value =>
    applied "SqlDate" [optionLiteral (fun d : Date => applied "datetime.date" d.arguments) value]

/-- The literals of items. -/
def literals : List Value → List String
  | [] => []
  | item :: rest => literal item :: literals rest

/-- The literals of dictionary entries. -/
def entryLiterals : List (Value × Value) → List String
  | [] => []
  | (key, value) :: rest => (literal key ++ ": " ++ literal value) :: entryLiterals rest

end

mutual

/-- Whether the literal of a value shows the identity of an object. Views of memory, streams and
objects without properties are written by their identity, so that two of them made apart never
have the same literal. -/
def showsIdentity : Value → Bool
  | .memoryView _ => true
  | .stream _ => true
  | .foreign .object => true
  | .list items => anyShowsIdentity items
  | .tuple items => anyShowsIdentity items
  | .dictionary entries => entryShowsIdentity entries
  | .set items => anyShowsIdentity items
  | .parameter value _ => showsIdentity value
  | .typed (.untyped value _) => showsIdentity value
  | _ => false

/-- Whether the literal of one of the items shows an identity. -/
def anyShowsIdentity : List Value → Bool
  | [] => false
  | item :: rest => showsIdentity item || anyShowsIdentity rest

/-- Whether the literal of one of the keys and values shows an identity. -/
def entryShowsIdentity : List (Value × Value) → Bool
  | [] => false
  | (key, value) :: rest => showsIdentity key || showsIdentity value || entryShowsIdentity rest

end

/-- Whether two values made apart have the same literal. -/
def sameLiteral (a b : Value) : Bool :=
  !a.showsIdentity && !b.showsIdentity && a.literal = b.literal

/-- What messages show of a value. -/
def display : Value → String
  | .decimal d => d.text
  | .text s => s
  | .dateTime t => t.text
  | .date d => d.text
  | .time t => t.text
  | .uuid u => u.text
  | .foreign .duration => "1 day, 0:00:00"
  | value => literal value

/-- The literals of items, one by one. -/
theorem literals_eq_map (items : List Value) : literals items = items.map literal := by
  induction items with
  | nil => rfl
  | cons item rest ih => rw [literals, ih]; rfl

/-- A list is written from the literals of its items. -/
theorem literal_list (items : List Value) :
    literal (.list items) = "[" ++ ", ".intercalate (items.map literal) ++ "]" := by
  rw [literal, literals_eq_map]

/-- A tuple is written from the literals of its items. -/
theorem literal_tuple (items : List Value) :
    literal (.tuple items) = tupleLiteral (items.map literal) := by
  rw [literal, literals_eq_map]

end Value

end TdsClient
