import TdsClient.Error
import TdsClient.Text.Uppercase
import TdsClient.Value.Order
import TdsClient.Value.Sequence

/-!
# Server names

A server is named by its host, possibly followed by a backslash and the
name of one of several servers on it. Instance names are compared in upper
case, and an empty one is none. A few names mean the local host.

## Main definitions

* `ServerName.parse` — host and instance of a name.
* `ServerName.ofValue` — the same for a value that may be no name.
-/

namespace TdsClient

/-- A host and the instance on it, if one is named. -/
structure ServerName where
  host : Value
  instanceName : Option String

namespace ServerName

/-- Names of the local host. -/
def localNames : List String := [".", "(local)", ""]

/-- The host that a name means. -/
def resolveHost (name : String) : String := if name ∈ localNames then "localhost" else name

/-- The instance that the text behind the backslash names. -/
def instanceOf (text : List Char) : Option String :=
  let upper := String.ofList (Text.Uppercase.ofText text)
  if upper = "" then none else some upper

/-- Reads a server name; only the first backslash divides it. -/
def parse (name : String) : ServerName :=
  let host := name.toList.takeWhile (· ≠ '\\')
  match name.toList.dropWhile (· ≠ '\\') with
  | [] => ⟨.text (resolveHost name), none⟩
  | _ :: rest => ⟨.text (resolveHost (String.ofList host)), instanceOf rest⟩

/-- Reads a value as a server name. Something that holds other values is looked through for a
backslash, which it cannot be divided at, and otherwise is the host as it is. -/
def ofValue : Value → Except Error ServerName
  | .text name => .ok (parse name)
  | .bytes _ => .error (.misuse .unsuitable)
  | .byteArray _ => .error (.misuse .unsuitable)
  | value =>
    match value.items? with
    | none => .error (.misuse .unsuitable)
    | some items =>
      if Value.holdsText items "\\" then .error (.misuse .noSuchOperation) else .ok ⟨value, none⟩

end ServerName

end TdsClient
