import TdsClient.Binding.Inference

/-!
# Bound parameters

A parameter ready to be sent: its name, its type, the value as sent, and
whether the server may return a value in its place. After execution a
parameter was either input or has the value that was returned for it.

## Main definitions

* `BoundParameter.bind` — a value, possibly a parameter, under a name.
* `BoundParameter.declaration` — how a statement declares it.
* `BoundResult` — what became of a parameter.
-/

namespace TdsClient

/-- A parameter ready to be sent. -/
structure BoundParameter where
  name : String
  type : SqlType
  value : Value
  output : Bool
  size : Int

namespace BoundParameter

/-- The declaration of a parameter: name, type, and whether it is an output. -/
def declaration (p : BoundParameter) : String :=
  p.name ++ " " ++ p.type.declaration ++ (if p.output then " OUTPUT" else "")

/-- The value of an argument and whether it is an output; only the outermost parameter counts. -/
def unwrapArgument : Value → Value × Bool
  | .parameter value output => (value, output)
  | value => (value, false)

/-- A parameter of a bound value. -/
def ofBound (name : String) (output : Bool) (b : Bound) : BoundParameter :=
  ⟨name, b.type, b.value, output, b.size⟩

/-- Binds an argument under a name. -/
def bind (i : Inference) (minimize : Bool) (name : String) (argument : Value) :
    Reported BoundParameter := do
  let (value, output) := unwrapArgument argument
  let bound ← i.bind minimize value
  return ofBound name output bound

/-- A parameter that holds national text. -/
def nationalText (i : Inference) (name text : String) : BoundParameter :=
  ofBound name false (i.boundNationalText (.text text) (Text.Utf16.length text))

end BoundParameter

/-- What became of a parameter: it was input, or the server returned a value for it. -/
inductive BoundResult
  | input
  | output (value : Value)

namespace BoundResult

/-- Whether the server returned a value. -/
def isOutput : BoundResult → Bool
  | .input => false
  | .output _ => true

/-- The returned value, if there is one. -/
def value? : BoundResult → Option Value
  | .input => none
  | .output value => some value

/-- The expression that shows a result. -/
def literal : BoundResult → String
  | .input => "BoundResult.Input"
  | .output value => applied "BoundResult.Output" [value.literal]

/-- Two results are equal if both are input, or both are output of equal values. -/
def equal : BoundResult → BoundResult → Except CompareError Bool
  | .input, .input => .ok true
  | .output a, .output b => a.equal b
  | _, _ => .ok false

/-- Whether two results made apart have the same hash. The hash of an output is computed from the
literal of its value. -/
def sameHash : BoundResult → BoundResult → Bool
  | .input, .input => true
  | .output a, .output b => a.sameLiteral b
  | _, _ => false

end BoundResult

end TdsClient
