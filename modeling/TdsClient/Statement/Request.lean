import TdsClient.Statement.Marker
import TdsClient.Statement.Parameter

/-!
# Requests

A statement without parameters is sent as a batch of SQL. One with
parameters becomes a call of `sp_executesql`: the markers of the statement
are replaced by names, and the call gets the resulting statement, the
declarations of all parameters, and the parameters themselves, whether or
not a marker refers to them. A stored procedure is called directly.

The markers are checked against the arguments before any argument is
bound; a marker without argument is an error.

## Main definitions

* `Request.ofStatement`, `Request.ofProcedure` — the requests.
* `Request.resolve` — results for the parameters from returned values.

## Main results

* `length_resolve` — there is one result for each user parameter.
-/

namespace TdsClient

/-- A request: a batch of SQL, or a call of a procedure with parameters, of which the first
few may belong to the call itself. -/
structure Request where
  sql : String
  procedure : Option String := none
  parameters : List BoundParameter := []
  firstParameter : Nat := 0

namespace Request

/-- The procedure that executes a statement with parameters. -/
def executeSql : String := "sp_executesql"

/-- Whether a request calls a procedure. -/
def isCall (r : Request) : Bool := r.procedure.isSome

/-- The parameters that the user passed. -/
def userParameters (r : Request) : List BoundParameter := r.parameters.drop r.firstParameter

/-! ## Statements -/

/-- The arguments that markers of a style refer to. -/
inductive ArgumentSource
  | positions (values : List Value)
  | names (entries : List (Value × Value))

namespace ArgumentSource

/-- What a value offers to the markers of a style: a sequence or a mapping. -/
def ofValue (style : ParamStyle) (value : Value) : Except Error ArgumentSource :=
  if style.isNamed then
    match value.entries? with
    | some entries => .ok (.names entries)
    | none => .error (.misuse (.parametersNotMapping value.kind))
  else
    match value.sequence? with
    | some values => .ok (.positions values)
    | none => .error (.misuse (.parametersNotSequence value.kind))

/-- Number of arguments. -/
def size : ArgumentSource → Nat
  | .positions values => values.length
  | .names entries => entries.length

/-- The name of the parameter at a position. -/
def positionName (n : Nat) : String := "@param" ++ toString n

/-- Whether a mapping has a name among its keys. -/
def hasName (entries : List (Value × Value)) (name : String) : Bool :=
  entries.any fun (key, _) => match key with
    | .text s => s = name
    | _ => false

/-- The name that stands in for a marker, if there is an argument for it. A marker of no style
that is of use looks for its name among the arguments themselves. -/
def nameOf (source : ArgumentSource) : MarkerKey → Except Error String
  | .position n =>
    if n < source.size then .ok (positionName n) else .error (.misuse (.noParameterAt n))
  | .name s =>
    match source with
    | .names entries =>
      if hasName entries s then .ok ("@" ++ s) else .error (.misuse (.noParameterNamed s))
    | .positions values =>
      if Value.holdsText values s then .ok ("@" ++ s) else .error (.misuse (.noParameterNamed s))

/-- All arguments under their names, in order. -/
def arguments : ArgumentSource → List (String × Value)
  | .positions values => ((List.range values.length).map positionName).zip values
  | .names entries => entries.map fun (key, value) => ("@" ++ key.display, value)

end ArgumentSource

/-- The text of a piece in the resulting statement. -/
def pieceText (source : ArgumentSource) : Piece → Except Error (List Char)
  | .plain c => .ok [c]
  | .marker _ key => (source.nameOf key).map String.toList

/-- The statement with names in place of markers. -/
def substitute (source : ArgumentSource) (pieces : List Piece) : Except Error String :=
  (pieces.mapM (pieceText source)).map fun texts => String.ofList texts.flatten

/-- Whether a piece is a marker. -/
def isMarker : Piece → Bool
  | .plain _ => false
  | .marker .. => true

/-- Binds arguments in order. -/
def bindAll (i : Inference) (minimize : Bool) (arguments : List (String × Value)) :
    Reported (List BoundParameter) :=
  arguments.mapM fun (name, value) => BoundParameter.bind i minimize name value

/-- The call that executes a statement with parameters. -/
def executeCall (i : Inference) (statement : String) (bound : List BoundParameter) : Request :=
  let declarations := ", ".intercalate (bound.map (·.declaration))
  let header :=
    [BoundParameter.nationalText i "@stmt" statement,
      BoundParameter.nationalText i "@params" declarations]
  { sql := statement
    procedure := some executeSql
    parameters := header ++ bound
    firstParameter := header.length }

/-- The request for a statement. Null stands for no parameters at all; with an empty container
a statement without markers is a batch too. -/
def ofStatement (i : Inference) (style : ParamStyle) (minimize : Bool) (sql : String)
    (parameters : Value) : Reported Request :=
  match parameters with
  | .null => pure { sql := sql }
  | parameters => do
    let source ← Reported.ofExcept (ArgumentSource.ofValue style parameters)
    let pieces ← Reported.ofExcept (Piece.ofStatement style sql)
    if source.size = 0 ∧ pieces.any isMarker = false then return { sql := sql }
    else
      let statement ← Reported.ofExcept (substitute source pieces)
      let bound ← bindAll i minimize source.arguments
      return executeCall i statement bound

/-! ## Procedures -/

/-- The name of a procedure's parameter: text of at least two characters that starts with an
at sign. -/
def parameterName (name : Value) : Except Error String :=
  match name with
  | .text s =>
    if "@".isPrefixOf s ∧ 2 ≤ s.length then .ok s
    else .error (.interface (.invalidParameterName name))
  | _ => .error (.interface (.invalidParameterName name))

/-- Binds the named arguments of a procedure, checking each name before its value. -/
def bindNamed (i : Inference) (entries : List (Value × Value)) : Reported (List BoundParameter) :=
  entries.mapM fun (key, value) => do
    let name ← Reported.ofExcept (parameterName key)
    BoundParameter.bind i true name value

/-- The call of a procedure with arguments by position or by name. -/
def ofProcedure (i : Inference) (procedure : String) (parameters : Value) : Reported Request := do
  let bound ←
    match parameters with
    | .dictionary entries => bindNamed i entries
    | .tuple values => bindAll i true (values.map fun value => ("", value))
    | value => Reported.misuse (.parametersNotTupleOrDictionary value.kind)
  return { sql := procedure, procedure := some procedure, parameters := bound }

/-! ## Returned values -/

/-- Values returned by the server with the places of their parameters in the request; of
several for one place the last counts. -/
abbrev Outputs := List (Int × Value)

/-- The value returned for a place. -/
def returned? (outputs : Outputs) (place : Int) : Option Value :=
  (outputs.reverse.find? fun entry => entry.1 = place).map (·.2)

/-- The result for a parameter at a place. -/
def resultAt (outputs : Outputs) (place : Nat) (p : BoundParameter) : BoundResult :=
  match p.output, returned? outputs place with
  | true, some value => .output value
  | _, _ => .input

/-- Results for parameters of which the first stands at a place. -/
def resolveFrom (outputs : Outputs) (place : Nat) : List BoundParameter → List BoundResult
  | [] => []
  | p :: rest => resultAt outputs place p :: resolveFrom outputs (place + 1) rest

/-- Results for the parameters that the user passed. -/
def resolve (r : Request) (outputs : Outputs) : List BoundResult :=
  resolveFrom outputs r.firstParameter r.userParameters

/-- There is one result for each parameter. -/
theorem length_resolveFrom (outputs : Outputs) (place : Nat) (ps : List BoundParameter) :
    (resolveFrom outputs place ps).length = ps.length := by
  induction ps generalizing place with
  | nil => rfl
  | cons p rest ih => simp [resolveFrom, ih]

/-- There is one result for each user parameter. -/
theorem length_resolve (r : Request) (outputs : Outputs) :
    (r.resolve outputs).length = r.userParameters.length :=
  length_resolveFrom ..

end Request

end TdsClient
