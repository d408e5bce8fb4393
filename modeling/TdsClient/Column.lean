import TdsClient.Error
import TdsClient.TypeCode
import TdsClient.Version

/-!
# Columns

What a session says about a column of a result, what the client makes of
it, and how the column is described and declared.

A column is normalised before use: nullable variants of types of fixed
size become the type of that size, and dates and times of a protocol that
cannot carry them become the text they arrive as. Columns of types that
the client does not read are refused.

The values of a few column types are converted as rows are read: bits to
truth values and binary columns to byte strings.

## Main definitions

* `Column.normalize` — the column as it is used.
* `Column.describe` — its entry in a description.
* `Column.declaration` — its type in a statement.
* `Column.convertRow` — the values of a row as programs see them.
-/

namespace TdsClient

/-- A column of a result, as a session reports it. -/
structure Column where
  name : String
  typeCode : TypeCode
  size : Int := 0
  precision : Int := 0
  scale : Int := 0
  nullable : Bool := true
  identity : Bool := false
deriving DecidableEq

/-- A column as programs see it. Only numbers with a fixed point, dates and times have a
precision and a scale. -/
structure ColumnDescription where
  name : String
  typeCode : TypeCode
  size : Int
  precision : Option Int
  scale : Option Int
  nullable : Bool
deriving DecidableEq

namespace Column

/-- The type of fixed size that a nullable type stands for at a size. -/
def fixedVariant (code : TypeCode) (size : Int) : TypeCode :=
  match code with
  | .intN =>
    if size = 1 then .tinyInt else if size = 2 then .smallInt
    else if size = 4 then .int else if size = 8 then .bigInt else code
  | .floatN => if size = 4 then .real else if size = 8 then .float else code
  | .moneyN => if size = 4 then .smallMoney else if size = 8 then .money else code
  | .dateTimeN => if size = 4 then .smallDateTime else if size = 8 then .dateTime else code
  | .bitN => .bit
  | _ => code

/-- The type a column is used as. -/
def normalCode (version : Version) (c : Column) : TypeCode :=
  if c.typeCode ∈ TypeCode.nativeTemporal ∧ !version.hasTemporal then .nvarChar
  else fixedVariant c.typeCode c.size

/-- The column as it is used. -/
def normalize (version : Version) (c : Column) : Except Error Column :=
  if c.typeCode ∈ TypeCode.unsupported then .error (.unsupportedColumn c.typeCode c.name)
  else .ok { c with typeCode := c.normalCode version }

/-- Whether a column's precision and scale mean anything. -/
def hasPrecision (c : Column) : Bool :=
  TypeGroup.decimal.has c.typeCode || c.typeCode ∈ TypeCode.nativeTemporal

/-- The entry of a column in a description. -/
def describe (c : Column) : ColumnDescription where
  name := c.name
  typeCode := c.typeCode
  size := c.size
  precision := if c.hasPrecision then some c.precision else none
  scale := if c.hasPrecision then some c.scale else none
  nullable := c.nullable

/-! ## Declarations -/

/-- Longest byte string or text of a code page with a size. -/
def maxSize : Int := 8000

/-- Longest national text with a size. -/
def maxNationalSize : Int := 4000

/-- A type name with the column's size, or without bound if the size is none. -/
def sizedDeclaration (name : String) (limit : Int) (c : Column) : String :=
  if c.size ≤ 0 ∨ limit < c.size then name ++ "(MAX)" else name ++ "(" ++ toString c.size ++ ")"

/-- A type name with the column's scale. -/
def scaledDeclaration (name : String) (c : Column) : String :=
  name ++ "(" ++ toString c.scale ++ ")"

/-- The column's type in a statement. -/
def declaration (c : Column) : Except Error String :=
  match c.typeCode with
  | .bit => .ok "BIT"
  | .tinyInt => .ok "TINYINT"
  | .smallInt => .ok "SMALLINT"
  | .int => .ok "INT"
  | .bigInt => .ok "BIGINT"
  | .real => .ok "REAL"
  | .float => .ok "FLOAT"
  | .smallMoney => .ok "SMALLMONEY"
  | .money => .ok "MONEY"
  | .smallDateTime => .ok "SMALLDATETIME"
  | .dateTime => .ok "DATETIME"
  | .date => .ok "DATE"
  | .text => .ok "TEXT"
  | .ntext => .ok "NTEXT"
  | .image => .ok "IMAGE"
  | .uniqueIdentifier => .ok "UNIQUEIDENTIFIER"
  | .xml => .ok "XML"
  | .decimal | .numeric =>
    .ok ("DECIMAL(" ++ toString c.precision ++ ", " ++ toString c.scale ++ ")")
  | .time => .ok (scaledDeclaration "TIME" c)
  | .dateTime2 => .ok (scaledDeclaration "DATETIME2" c)
  | .dateTimeOffset => .ok (scaledDeclaration "DATETIMEOFFSET" c)
  | .char | .oldChar => .ok (sizedDeclaration "CHAR" maxSize c)
  | .varChar | .oldVarChar => .ok (sizedDeclaration "VARCHAR" maxSize c)
  | .nchar => .ok (sizedDeclaration "NCHAR" maxNationalSize c)
  | .nvarChar => .ok (sizedDeclaration "NVARCHAR" maxNationalSize c)
  | .binary | .oldBinary => .ok (sizedDeclaration "BINARY" maxSize c)
  | .varBinary | .oldVarBinary => .ok (sizedDeclaration "VARBINARY" maxSize c)
  | code => .error (.unsupportedColumn code c.name)

/-! ## Values -/

/-- How the values of a column are converted. -/
inductive Conversion
  | truth
  | bytes
deriving DecidableEq

/-- The conversion of a column type, if its values are converted. -/
def conversion? : TypeCode → Option Conversion
  | .bit => some .truth
  | .image => some .bytes
  | .binary => some .bytes
  | .varBinary => some .bytes
  | .oldBinary => some .bytes
  | .oldVarBinary => some .bytes
  | _ => none

/-- A converted value. Null stays null; conversion to a byte string makes one of what is not a
constant byte string yet, and has null for what already is. -/
def Conversion.apply (conversion : Conversion) (value : Value) : Except Error Value :=
  match conversion, value with
  | _, .null => .ok .null
  | .bytes, .bytes _ => .ok .null
  | .truth, value => .ok (.bool value.isTrue)
  | .bytes, value =>
    match value.toBytes with
    | .ok b => .ok (.bytes b)
    | .error cause => .error (.misuse (.bytes cause))

/-- The values of a row as programs see them, given the conversion of each column. A row must
reach to the last converted column. -/
def convertRow : List (Option Conversion) → List Value → Except Error (List Value)
  | [], values => .ok values
  | none :: rest, value :: values => do
    let values ← convertRow rest values
    .ok (value :: values)
  | some conversion :: rest, value :: values => do
    let value ← conversion.apply value
    let values ← convertRow rest values
    .ok (value :: values)
  | rest, [] => if rest.any Option.isSome then .error (.misuse .rowTooShort) else .ok []

/-- The conversions of columns. -/
def conversions (columns : List Column) : List (Option Conversion) :=
  columns.map fun c => conversion? c.typeCode

end Column

end TdsClient
