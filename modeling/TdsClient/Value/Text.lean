import TdsClient.Error
import TdsClient.Text.Bracketed

/-!
# Values as text

Where text is wanted a value of another kind is refused, as something that
lacks what text can do, or as something that does it with other parts.

## Main definitions

* `Value.toText` — the text that a value is.
* `Value.quotedName` — a value quoted as a name.
-/

namespace TdsClient.Value

/-- The text that a value is. -/
def toText : Value → Except Error String
  | .text s => .ok s
  | _ => .error (.misuse .noSuchOperation)

/-- A value quoted as a name. Byte strings, dates and times have parts that can be replaced, but
brackets are none of them. -/
def quotedName (value : Value) : Except Error String :=
  match value with
  | .bytes _ | .byteArray _ | .dateTime _ | .date _ | .time _ => .error (.misuse .unsuitable)
  | value => value.toText.map Text.Bracketed.quote

end TdsClient.Value
