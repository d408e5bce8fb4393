import TdsClient.Cursor.Reading

/-!
# Executing statements

A statement begins by taking the session over, whatever was unread before.
Then its parameters are bound, it is submitted, and the cursor goes on to
the first result set. If any of this fails there is no result set.

A statement repeated for several items is prepared for all of them before
the first is submitted. Types are not minimised then, so that all
submissions declare the same types.

A procedure gives its arguments back, with the values that the server
returned in place of output parameters. While a result set has yet to be
read there are none.

## Main definitions

* `Cursor.execute`, `Cursor.executeMany`, `Cursor.callProcedure`.
-/

namespace TdsClient.Cursor

open Connection

variable {σ : Type} [Session σ]

/-- Begins a statement of the cursor. -/
def begin (k : Cursor) : Op σ Unit := do
  k.check
  beginStatement (some k.index)
  k.change (·.begin)

/-- Whether row counts can be trusted: those of remote calls are not reported by old servers. -/
def countsReliably (version : Version) (r : Request) : Bool := !r.isCall || version.hasMax

/-- Submits a request. -/
def submit (k : Cursor) (r : Request) : Op σ Unit := do
  submitFor (some k.index) r
  let version := Session.version (← get).session
  k.change fun record =>
    { record with state := .executing, rowCountReliable := countsReliably version r }

/-- Submits a request and goes on to its first result set. -/
def run (k : Cursor) (r : Request) : Op σ Unit :=
  k.protect do
    k.submit r
    let _ ← k.advance

/-! ## Single statements -/

/-- Executes a statement; null stands for no parameters. -/
def execute (k : Cursor) (sql : String) (parameters : Value) : Op σ Unit := do
  k.begin
  let c ← get
  let request ← k.protect (announce (Request.ofStatement c.inference c.style true sql parameters))
  k.run request

/-! ## Repeated statements -/

/-- Number of arguments in an item, if it is one for the style of markers. -/
def itemSize? (style : ParamStyle) (item : Value) : Option Nat :=
  if style.isNamed then item.entries?.map List.length else item.sequence?.map List.length

/-- Checks the items from a number on: all have the form that the style demands, and the same
number of arguments. -/
def checkItems (style : ParamStyle) :
    (number : Nat) → (expected : Option Nat) → List Value → Except Error Unit
  | _, _, [] => .ok ()
  | number, expected, item :: rest =>
    match itemSize? style item with
    | none => .error (.misuse (.invalidItem style.isNamed number))
    | some size =>
      if size = expected.getD size then checkItems style (number + 1) (some size) rest
      else .error (.interface (.parameterCount style.isNamed number))

/-- The total of row counts, of which negative ones say nothing. -/
def addCount (total count : Int) : Int := if 0 ≤ count then max total 0 + count else total

/-- Submits requests one after the other, reading each response to its end. Gives the total row
count and whether it can be trusted. -/
def runAll (k : Cursor) (total : Int) (reliable : Bool) : List Request → Op σ (Int × Bool)
  | [] => return (total, reliable)
  | request :: rest => do
    k.submit request
    let reliable := reliable && (← k.record).rowCountReliable
    k.discardResults
    k.runAll (addCount total (← k.record).rowCount) reliable rest

/-- Executes a statement once for every item. -/
def executeMany (k : Cursor) (sql : String) (items : Value) : Op σ Unit := do
  k.begin
  match items.items? with
  | none => throw (.misuse .unsuitable)
  | some items =>
    let c ← get
    Op.ofExcept (checkItems c.style 0 none items)
    let requests ← announce (items.mapM (Request.ofStatement c.inference c.style false sql))
    let (rowCount, rowCountReliable) ← k.protect (k.runAll (-1) true requests)
    k.change fun record => { record with rowCount, rowCountReliable }

/-! ## Procedures -/

/-- What is said when output parameters cannot be returned. -/
def outputsUnsupported : String := "output parameters are not supported with result sets"

/-- Arguments with returned values in place of outputs. -/
def replaceOutputs (arguments : List Value) (results : List BoundResult) : List Value :=
  List.zipWith (fun argument result => result.value?.getD argument) arguments results

/-- A container of arguments with returned values in place of outputs. -/
def withOutputs (arguments : Value) (results : List BoundResult) : Value :=
  match arguments with
  | .tuple items => .tuple (replaceOutputs items results)
  | .dictionary entries =>
    .dictionary ((entries.map Prod.fst).zip (replaceOutputs (entries.map Prod.snd) results))
  | value => value

/-- Calls a procedure. -/
def callProcedure (k : Cursor) (procedure : String) (arguments : Value) : Op σ Value := do
  k.begin
  let c ← get
  let request ← k.protect (announce (Request.ofProcedure c.inference procedure arguments))
  k.run request
  if (← k.record).state = .hasResults then
    if request.parameters.any (·.output) then warn outputsUnsupported
    return arguments
  else
    let outputs := Session.outputs (← get).session
    return withOutputs arguments (request.resolve outputs)

end TdsClient.Cursor
