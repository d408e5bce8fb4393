/-!
# Type codes

The code by which the protocol names the type of a column. Some types
have a code of fixed size beside a nullable one that leaves the size to
the column (`intN`), and the string types have an older code of their own
(`oldChar`).

A code belongs to at most one of the groups that programs test columns
against, such as `TypeGroup.number`.

## Main results

* `ofCode_of_mem` — the groups do not overlap.
-/

namespace TdsClient

/-- The code of a column type. -/
structure TypeCode where
  code : Nat
deriving DecidableEq

namespace TypeCode

@[match_pattern] def void : TypeCode := ⟨31⟩
@[match_pattern] def image : TypeCode := ⟨34⟩
@[match_pattern] def text : TypeCode := ⟨35⟩
@[match_pattern] def uniqueIdentifier : TypeCode := ⟨36⟩
@[match_pattern] def oldVarBinary : TypeCode := ⟨37⟩
@[match_pattern] def intN : TypeCode := ⟨38⟩
@[match_pattern] def oldVarChar : TypeCode := ⟨39⟩
@[match_pattern] def date : TypeCode := ⟨40⟩
@[match_pattern] def time : TypeCode := ⟨41⟩
@[match_pattern] def dateTime2 : TypeCode := ⟨42⟩
@[match_pattern] def dateTimeOffset : TypeCode := ⟨43⟩
@[match_pattern] def oldBinary : TypeCode := ⟨45⟩
@[match_pattern] def oldChar : TypeCode := ⟨47⟩
@[match_pattern] def tinyInt : TypeCode := ⟨48⟩
@[match_pattern] def bit : TypeCode := ⟨50⟩
@[match_pattern] def smallInt : TypeCode := ⟨52⟩
@[match_pattern] def int : TypeCode := ⟨56⟩
@[match_pattern] def smallDateTime : TypeCode := ⟨58⟩
@[match_pattern] def real : TypeCode := ⟨59⟩
@[match_pattern] def money : TypeCode := ⟨60⟩
@[match_pattern] def dateTime : TypeCode := ⟨61⟩
@[match_pattern] def float : TypeCode := ⟨62⟩
@[match_pattern] def variant : TypeCode := ⟨98⟩
@[match_pattern] def ntext : TypeCode := ⟨99⟩
@[match_pattern] def bitN : TypeCode := ⟨104⟩
@[match_pattern] def decimal : TypeCode := ⟨106⟩
@[match_pattern] def numeric : TypeCode := ⟨108⟩
@[match_pattern] def floatN : TypeCode := ⟨109⟩
@[match_pattern] def moneyN : TypeCode := ⟨110⟩
@[match_pattern] def dateTimeN : TypeCode := ⟨111⟩
@[match_pattern] def smallMoney : TypeCode := ⟨122⟩
@[match_pattern] def bigInt : TypeCode := ⟨127⟩
@[match_pattern] def varBinary : TypeCode := ⟨165⟩
@[match_pattern] def varChar : TypeCode := ⟨167⟩
@[match_pattern] def binary : TypeCode := ⟨173⟩
@[match_pattern] def char : TypeCode := ⟨175⟩
@[match_pattern] def nvarChar : TypeCode := ⟨231⟩
@[match_pattern] def nchar : TypeCode := ⟨239⟩
@[match_pattern] def udt : TypeCode := ⟨240⟩
@[match_pattern] def xml : TypeCode := ⟨241⟩

/-- The public names of the codes. -/
def names : List (String × TypeCode) := [
  ("BIT", bit),
  ("BITN", bitN),
  ("TINYINT", tinyInt),
  ("SMALLINT", smallInt),
  ("INT", int),
  ("BIGINT", bigInt),
  ("INTN", intN),
  ("REAL", real),
  ("FLOAT", float),
  ("FLOATN", floatN),
  ("SMALLMONEY", smallMoney),
  ("MONEY", money),
  ("MONEYN", moneyN),
  ("DECIMAL", decimal),
  ("NUMERIC", numeric),
  ("SMALLDATETIME", smallDateTime),
  ("DATETIME", dateTime),
  ("DATETIMEN", dateTimeN),
  ("DATE", date),
  ("TIME", time),
  ("DATETIME2", dateTime2),
  ("DATETIMEOFFSET", dateTimeOffset),
  ("CHAR", char),
  ("VARCHAR", varChar),
  ("NCHAR", nchar),
  ("NVARCHAR", nvarChar),
  ("TEXT", text),
  ("NTEXT", ntext),
  ("BINARY", binary),
  ("VARBINARY", varBinary),
  ("IMAGE", image),
  ("GUID", uniqueIdentifier),
  ("XML", xml),
  ("VARIANT", variant),
  ("VOID", void)]

/-- Dates and times that protocols before 7.3 do not have. -/
def nativeTemporal : List TypeCode := [date, time, dateTime2, dateTimeOffset]

/-- Types whose values the library does not read. -/
def unsupported : List TypeCode := [void, variant, udt]

/-- Strings of the connection's code page. -/
def singleByteStrings : List TypeCode := [char, varChar, oldChar, oldVarChar, text]

end TypeCode

/-- The groups of column types that programs distinguish. -/
inductive TypeGroup
  | string
  | binary
  | number
  | dateTime
  | decimal
  | rowId
deriving DecidableEq

namespace TypeGroup

/-- The groups in their usual order. -/
def all : List TypeGroup := [string, binary, number, dateTime, decimal, rowId]

/-- The public name of a group. -/
def name : TypeGroup → String
  | .string => "STRING"
  | .binary => "BINARY"
  | .number => "NUMBER"
  | .dateTime => "DATETIME"
  | .decimal => "DECIMAL"
  | .rowId => "ROWID"

/-- The codes of a group. No column is a row identifier. -/
def members : TypeGroup → List TypeCode
  | .string => [.oldVarChar, .oldChar, .text, .nvarChar, .nchar, .ntext, .varChar, .char, .xml]
  | .binary => [.image, .oldBinary, .oldVarBinary, .varBinary, .binary]
  | .number =>
    [.bit, .bitN, .tinyInt, .smallInt, .int, .bigInt, .intN, .real, .float, .floatN]
  | .dateTime =>
    [.dateTime, .smallDateTime, .dateTimeN, .date, .time, .dateTime2, .dateTimeOffset]
  | .decimal => [.money, .smallMoney, .moneyN, .numeric, .decimal]
  | .rowId => []

/-- Whether a code belongs to a group. -/
def has (group : TypeGroup) (code : TypeCode) : Bool := code ∈ group.members

/-- The groups a code belongs to. -/
def ofCode (code : TypeCode) : List TypeGroup := all.filter (·.has code)

/-- The groups do not overlap. -/
theorem ofCode_of_mem :
    ∀ group ∈ all, ∀ code ∈ group.members, ofCode code = [group] := by
  decide

end TypeGroup

end TdsClient
