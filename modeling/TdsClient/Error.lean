import TdsClient.Message
import TdsClient.Text.CodePoint
import TdsClient.Value.Literal
import TdsClient.Value.Order
import TdsClient.Value.Sequence

/-!
# Errors and warnings

An error says what went wrong; its wording is in one place. There are
four sorts: the client cannot be used that way (`InterfaceFault`), the
database refuses (`DatabaseError`), a warning is escalated, or the caller
passes something unfit (`Misuse`).

Refusals come from the server, with the message that explains them, or
are made by the client on the server's behalf, without one. Seen from
outside both are database errors, so `Error.database?` shows either as one.

## Main definitions

* `Error` — the errors.
* `Error.text?` — the wording, for the errors that have one of their own.
* `Warning`, `BindingWarning` — what is reported and goes on.
-/

namespace TdsClient

open Number

/-- A warning, with the message it reports if there is one. -/
structure Warning where
  text : String
  message : Option Message := none
deriving DecidableEq

namespace Warning

/-- The warning that reports a message. -/
def ofMessage (m : Message) : Warning := ⟨m.description, some m⟩

/-- A warning of the client, with a message that says so. -/
def ofClient (text : String) : Warning := ofMessage (.ofClient text)

end Warning

/-- What is lost when a value is bound. -/
inductive BindingWarning
  | unrepresentable (c : Char) (charset : String)
  | surrogate (index : Fin 2048) (charset : String)
  | precisionExceeded (d : Decimal)
deriving DecidableEq

/-- The wording for a code point that is replaced. -/
def replacedText (code : Nat) (charset : String) : String :=
  "Unicode codepoint U+" ++ String.ofList ((Digits.hex 8 code).toList.map Char.toUpper) ++
    " is not representable in " ++ charset ++ "; replaced"

/-- The wording of a loss. -/
def BindingWarning.text : BindingWarning → String
  | .unrepresentable c charset => replacedText c.toNat charset
  | .surrogate index charset => replacedText (Text.CodePoint.surrogate index).toNat charset
  | .precisionExceeded d =>
    (Value.decimal d).literal ++ " exceeds SQL DECIMAL precision; truncating"

/-- Uses of the client that its state does not allow, and requests it cannot make. -/
inductive InterfaceFault
  | cursorClosed
  | connectionClosed
  | connectionDead
  | sessionLost (text : String)
  | noResults
  | invalidMarker
  | invalidParameterName (name : Value)
  | unsupportedVersion (name : Value)
  | noSqlType (kind : String)
  | parameterCount (named : Bool) (item : Nat)
  | columnCount (row : Nat)

namespace InterfaceFault

/-- What the items of a repeated statement are. -/
def itemKind (named : Bool) : String := if named then "mapping" else "sequence"

/-- The wording of a fault. -/
def text : InterfaceFault → String
  | .cursorClosed => "cursor closed"
  | .connectionClosed => "connection closed"
  | .connectionDead => "connection is dead"
  | .sessionLost text => text
  | .noResults => "no results"
  | .invalidMarker => "invalid parameter marker"
  | .invalidParameterName name => "invalid parameter name \"" ++ name.display ++ "\""
  | .unsupportedVersion name => "unsupported TDS version \"" ++ name.display ++ "\""
  | .noSqlType kind => "could not implicitly convert Python type \"" ++ kind ++ "\" to SQL"
  | .parameterCount named item =>
    "unexpected parameter count in " ++ itemKind named ++ " item " ++ toString item
  | .columnCount row => "unexpected column count in row " ++ toString row

end InterfaceFault

/-- A refusal of the database, with the message that explains it if there is one. -/
structure DatabaseError where
  errorClass : ErrorClass
  text : String
  message : Option Message := none
deriving DecidableEq

namespace DatabaseError

/-- The error that a message reports. -/
def ofMessage (m : Message) : DatabaseError := ⟨m.errorClass, m.description, some m⟩

/-- The number of the message, zero without one. -/
def number (e : DatabaseError) : Int := (e.message.map (·.number)).getD 0

/-- The severity of the message, zero without one. -/
def severity (e : DatabaseError) : Int := (e.message.map (·.severity)).getD 0

/-- The state of the message, zero without one. -/
def state (e : DatabaseError) : Int := (e.message.map (·.state)).getD 0

/-- The line that the message names, zero without one. -/
def line (e : DatabaseError) : Int := (e.message.map (·.line)).getD 0

/-- The procedure that the message names, if any. -/
def procedure (e : DatabaseError) : String := (e.message.map (·.procedure)).getD ""

/-- The server that the message names, if any. -/
def server (e : DatabaseError) : String := (e.message.map (·.server)).getD ""

/-- The full report: where the error arose and its text on a line of its own. -/
def report (e : DatabaseError) : String :=
  "SQL Server message " ++ toString e.number ++ ", severity " ++ toString e.severity ++
    ", state " ++ toString e.state ++
    (if e.procedure.isEmpty then "" else ", procedure " ++ e.procedure) ++
    ", line " ++ toString e.line ++ ":\n" ++ e.text

end DatabaseError

/-- The kinds of errors that programs tell apart. -/
inductive ErrorKind
  | interface
  | database (errorClass : ErrorClass)
  | warning
  | wrongType
  | wrongValue
  | overflow
  | decimalOverflow
  | badIndex
  | missingKey
  | failedLookup
  | missingAttribute
  | notImplemented
  | invalidOperation
  | assertion
  | system
  | other (name : String)
deriving DecidableEq

/-- Values without order are of the wrong type; a signaling NaN makes the operation invalid. -/
def CompareError.kind : CompareError → ErrorKind
  | .unordered => .wrongType
  | .signalingNaN => .invalidOperation

/-- The kind of a failed conversion to bytes. -/
def BytesError.kind : BytesError → ErrorKind
  | .noConversion => .wrongType
  | .byteOutOfRange => .wrongValue
  | .negativeSize => .wrongValue
  | .sizeTooLarge => .overflow
  | .noMemory => .other "MemoryError"

/-- The kind of a failed clock reading. -/
def ClockError.kind : ClockError → ErrorKind
  | .yearOutOfRange => .wrongValue
  | .yearTooLarge => .system
  | .readingTooLarge => .overflow

/-- Settings that take values of one kind only. -/
inductive Setting
  | autocommit
  | timeout
  | arraySize
  | batchSize
  | databaseName
deriving DecidableEq

/-- What the wording says of a value of another kind. -/
def Setting.text : Setting → String
  | .autocommit => "autocommit must be True or False"
  | .timeout => "timeout must be an int"
  | .arraySize => "arraysize must be an int"
  | .batchSize => "batch_size must be an int"
  | .databaseName => "database name must be a string"

/-- Arguments that do not fit. -/
inductive Misuse
  /-- A value of a kind that is not taken. -/
  | wrongKind (value : Value)
  | settingKind (setting : Setting)
  | parametersNotMapping (kind : String)
  | parametersNotSequence (kind : String)
  | parametersNotTupleOrDictionary (kind : String)
  | invalidItem (named : Bool) (item : Nat)
  | invalidRow (row : Nat)
  /-- Something that an operation cannot take at all. -/
  | unsuitable
  /-- Something that lacks an operation or a property. -/
  | noSuchOperation
  /-- A value of the right kind that is not allowed. -/
  | valueOutOfRange (value : Value)
  | invalidSize (size : Int)
  | invalidPrecision (precision : Int)
  | invalidScale (scale : Int)
  | tooLong (typeName : String)
  | unsupportedParamStyle (name : Value)
  | numberTooLong
  | integerTooBig
  | integerOutOfRange (value : Int) (typeName : String)
  | invalidDecimal
  | notDecimal
  | malformedDecimal
  | unknownCharset
  | noParameterAt (position : Nat)
  | noParameterNamed (name : String)
  | missingColumn (name : String)
  | rowTooShort
  | untyped
  | bytes (cause : BytesError)
  | comparison (cause : CompareError)
  | clock (cause : ClockError)
  | noSuchDate
  | fieldTooLarge
  | invalidDeclaration

namespace Misuse

/-- The wording, where there is one. -/
def text? : Misuse → Option String
  | .wrongKind value => some value.display
  | .settingKind setting => some setting.text
  | .parametersNotMapping kind =>
    some ("parameters must be a mapping for named paramstyle, got " ++ kind)
  | .parametersNotSequence kind =>
    some ("parameters must be a sequence for numeric paramstyle, got " ++ kind)
  | .parametersNotTupleOrDictionary kind =>
    some ("parameters must be a tuple or a dict, got " ++ kind)
  | .invalidItem named item =>
    some ("invalid parameter " ++ InterfaceFault.itemKind named ++ " item " ++ toString item)
  | .invalidRow row => some ("invalid sequence for row " ++ toString row)
  | .valueOutOfRange value => some value.display
  | .invalidSize size => some ("invalid size: " ++ toString size)
  | .invalidPrecision precision => some ("invalid precision: " ++ toString precision)
  | .invalidScale scale => some ("invalid scale: " ++ toString scale)
  | .tooLong typeName => some (typeName ++ " value is longer than 8000")
  | .unsupportedParamStyle name => some ("unsupported paramstyle \"" ++ name.display ++ "\"")
  | .integerTooBig => some "int too big to convert"
  | .integerOutOfRange value typeName =>
    some (toString value ++ " is out of range for " ++ typeName)
  | .noParameterAt position => some (toString position)
  | .noParameterNamed name => some ("unknown named parameter \"" ++ name ++ "\"")
  | .missingColumn name => some name
  | .untyped => some ""
  | _ => none

end Misuse

/-- The kind of a misuse. -/
def Misuse.kind : Misuse → ErrorKind
  | .wrongKind _ => .wrongType
  | .settingKind _ => .wrongType
  | .parametersNotMapping _ => .wrongType
  | .parametersNotSequence _ => .wrongType
  | .parametersNotTupleOrDictionary _ => .wrongType
  | .invalidItem .. => .wrongType
  | .invalidRow _ => .wrongType
  | .unsuitable => .wrongType
  | .noSuchOperation => .missingAttribute
  | .valueOutOfRange _ => .wrongValue
  | .invalidSize _ => .wrongValue
  | .invalidPrecision _ => .wrongValue
  | .invalidScale _ => .wrongValue
  | .tooLong _ => .wrongValue
  | .unsupportedParamStyle _ => .wrongValue
  | .numberTooLong => .wrongValue
  | .integerTooBig => .overflow
  | .integerOutOfRange .. => .overflow
  | .invalidDecimal => .invalidOperation
  | .notDecimal => .wrongType
  | .malformedDecimal => .wrongValue
  | .unknownCharset => .failedLookup
  | .noParameterAt _ => .badIndex
  | .noParameterNamed _ => .failedLookup
  | .missingColumn _ => .missingKey
  | .rowTooShort => .badIndex
  | .untyped => .notImplemented
  | .bytes cause => cause.kind
  | .comparison cause => cause.kind
  | .clock cause => cause.kind
  | .noSuchDate => .wrongValue
  | .fieldTooLarge => .overflow
  | .invalidDeclaration => .wrongValue

/-- The errors of the library. -/
inductive Error
  | interface (fault : InterfaceFault)
  | database (error : DatabaseError)
  | decimalOutOfRange (d : Decimal)
  | unsupportedColumn (code : TypeCode) (name : String)
  | bulkCopyDisabled
  | warning (w : Warning)
  | misuse (cause : Misuse)
  /-- A result set lacks what is needed to read it, which no cursor lets happen. -/
  | brokenResult
  /-- A failure of the session that is no business of the client. -/
  | unexpected (kind : ErrorKind)

namespace Error

/-- The error as a refusal of the database, if it is one. -/
def database? : Error → Option DatabaseError
  | .database e => some e
  | .decimalOutOfRange d => some ⟨.data, (Value.decimal d).literal ++ " out of range", none⟩
  | .unsupportedColumn code name =>
    some ⟨.notSupported,
      "unsupported type " ++ toString code.code ++ " for column \"" ++ name ++ "\"", none⟩
  | .bulkCopyDisabled => some ⟨.notSupported, "bulk copy is not enabled", none⟩
  | _ => none

/-- The kind of an error. -/
def kind : Error → ErrorKind
  | .interface _ => .interface
  | .database e => .database e.errorClass
  | .decimalOutOfRange _ => .database .data
  | .unsupportedColumn .. => .database .notSupported
  | .bulkCopyDisabled => .database .notSupported
  | .warning _ => .warning
  | .misuse cause => cause.kind
  | .brokenResult => .assertion
  | .unexpected kind => kind

/-- The wording of an error, if it has one of its own. -/
def text? : Error → Option String
  | .interface fault => some fault.text
  | .warning w => some w.text
  | .misuse cause => cause.text?
  | .brokenResult => some ""
  | .unexpected _ => none
  | e => e.database?.map (·.text)

/-- What has to be there; that it is not is a misuse. -/
def require {α : Type} (cause : Misuse) : Option α → Except Error α
  | some a => .ok a
  | none => .error (.misuse cause)

end Error

end TdsClient
