import TdsClient.Connection.Basic

/-!
# Options of a connection

A connection takes its options as they are given. Switches are on for every
value that counts as true, and what a program reads back is what it gave.

## Main definitions

* `ConnectionOptions.change` — options given by name.
* `ConnectionOptions.connection` — the connection over an open session.
-/

namespace TdsClient

/-- The options of a connection, as they were given. -/
structure ConnectionOptions where
  style : Value := ParamStyle.numeric.given
  autocommit : Value := .bool false
  ansiDefaults : Value := .bool true
  bulkCopy : Value := .bool true
  charset : Value := .text Text.Charset.cp1252.name
  escalation : Value := .bool false
  timeout : Value := .null

namespace ConnectionOptions

/-- The options with one changed that has a name. -/
def set? (o : ConnectionOptions) (value : Value) : String → Option ConnectionOptions
  | "paramstyle" => some { o with style := value }
  | "autocommit" => some { o with autocommit := value }
  | "ansi_defaults" => some { o with ansiDefaults := value }
  | "enable_bcp" => some { o with bulkCopy := value }
  | "charset" => some { o with charset := value }
  | "warning_as_error" => some { o with escalation := value }
  | "timeout" => some { o with timeout := value }
  | _ => none

/-- The options with those changed that are given by name. There are no others. -/
def change (o : ConnectionOptions) (options : List (String × Value)) :
    Except Error ConnectionOptions :=
  options.foldlM (fun o (name, value) => Error.require .unsuitable (o.set? value name)) o

/-- The connection over an open session, before it is set up. -/
def connection {σ : Type} [Session σ] (o : ConnectionOptions) (session : σ) : Connection σ where
  session := session
  style := .ofValue o.style
  autocommitMode := o.autocommit
  bulkCopyEnabled := o.bulkCopy.isTrue
  timeout := o.timeout
  escalation := o.escalation
  inference := { version := Session.version session, charset := Inference.charsetOf o.charset }

end ConnectionOptions

end TdsClient
