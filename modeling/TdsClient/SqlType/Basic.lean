import TdsClient.Number.Digits

/-!
# SQL types

The types of the server's columns and parameters, with their size or
precision where they have one. The strings and byte strings of variable
length also come without bound.

`SqlType.declaration` is the type as a statement spells it, for instance
in the parameter list of a parametrised statement.
-/

namespace TdsClient

/-- A type of the server. -/
inductive SqlType
  | bit
  | tinyInt
  | smallInt
  | int
  | bigInt
  | real
  | float
  | smallMoney
  | money
  | decimal (precision scale : Nat)
  | smallDateTime
  | dateTime
  | date
  | time (precision : Nat)
  | dateTime2 (precision : Nat)
  | dateTimeOffset (precision : Nat)
  | char (size : Nat)
  | varChar (size : Nat)
  | varCharMax
  | nchar (size : Nat)
  | nvarChar (size : Nat)
  | nvarCharMax
  | text
  | ntext
  | binary (size : Nat)
  | varBinary (size : Nat)
  | varBinaryMax
  | image
  | uniqueIdentifier
  | variant
  | xml
deriving DecidableEq

namespace SqlType

/-- Places of the second that times keep unless said otherwise. -/
def defaultPrecision : Nat := 7

/-- A type name with a size in parentheses. -/
def sizedName (name : String) (size : Nat) : String :=
  name ++ "(" ++ Number.Digits.text size ++ ")"

/-- The type as statements spell it. -/
def declaration : SqlType → String
  | .bit => "BIT"
  | .tinyInt => "TINYINT"
  | .smallInt => "SMALLINT"
  | .int => "INT"
  | .bigInt => "BIGINT"
  | .real => "REAL"
  | .float => "FLOAT"
  | .smallMoney => "SMALLMONEY"
  | .money => "MONEY"
  | .decimal precision scale =>
    "DECIMAL(" ++ Number.Digits.text precision ++ ", " ++ Number.Digits.text scale ++ ")"
  | .smallDateTime => "SMALLDATETIME"
  | .dateTime => "DATETIME"
  | .date => "DATE"
  | .time precision => sizedName "TIME" precision
  | .dateTime2 precision => sizedName "DATETIME2" precision
  | .dateTimeOffset precision => sizedName "DATETIMEOFFSET" precision
  | .char size => sizedName "CHAR" size
  | .varChar size => sizedName "VARCHAR" size
  | .varCharMax => "VARCHAR(MAX)"
  | .nchar size => sizedName "NCHAR" size
  | .nvarChar size => sizedName "NVARCHAR" size
  | .nvarCharMax => "NVARCHAR(MAX)"
  | .text => "TEXT"
  | .ntext => "NTEXT"
  | .binary size => sizedName "BINARY" size
  | .varBinary size => sizedName "VARBINARY" size
  | .varBinaryMax => "VARBINARY(MAX)"
  | .image => "IMAGE"
  | .uniqueIdentifier => "UNIQUEIDENTIFIER"
  | .variant => "SQL_VARIANT"
  | .xml => "XML"

end SqlType

end TdsClient
