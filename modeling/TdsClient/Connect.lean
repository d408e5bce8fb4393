import TdsClient.Connection.Options
import TdsClient.Connection.Transaction
import TdsClient.Interface
import TdsClient.Login
import TdsClient.ServerName

/-!
# Connecting

The options of a connection are checked before anything is sent: first the
style of markers, then the protocol version. The name of the server may
name an instance, unless one is given beside it. If a session cannot be
set up it is closed again.

## Main definitions

* `ConnectOptions` — the options.
* `ConnectOptions.ofNamed` — options given by name.
* `ConnectOptions.prepare` — the login and the connection that they ask for.
* `establish` — setting a connection up.
-/

namespace TdsClient

/-- The options: those of the login, those of the connection, and the version and the style of
markers that are asked for, if any. -/
structure ConnectOptions where
  login : LoginSettings
  connection : ConnectionOptions
  version : Value := .null
  style : Value := .null

namespace ConnectOptions

/-- The options of a connection to a server that is told nothing else. -/
def ofServer (server : Value) : ConnectOptions where
  login := { server }
  connection := { timeout := .int 5 }

/-- The options with one changed that has a name. Both the login and the connection have a
timeout, and it is the same. -/
def set? (o : ConnectOptions) (value : Value) : String → Option ConnectOptions
  | "tds_version" => some { o with version := value }
  | "paramstyle" => some { o with style := value }
  | "timeout" =>
    some { o with
      login := { o.login with timeout := value }
      connection := { o.connection with timeout := value } }
  | name =>
    match o.login.set? value name, o.connection.set? value name with
    | some login, _ => some { o with login }
    | none, some connection => some { o with connection }
    | none, none => none

/-- The options that are given by name. The server has to be given. -/
def ofNamed (options : List (String × Value)) : Except Error ConnectOptions := do
  let server ← Error.require .unsuitable (options.lookup "server")
  let change (o : ConnectOptions) (option : String × Value) :=
    Error.require .unsuitable (o.set? option.2 option.1)
  options.foldlM change (ofServer server)

/-- The style of markers that is asked for. -/
def markerStyle (o : ConnectOptions) : Except Error ParamStyle :=
  match o.style with
  | .null => .ok Interface.defaultStyle
  | value =>
    match ParamStyle.ofValue value with
    | .other given => .error (.misuse (.unsupportedParamStyle given))
    | style => .ok style

/-- What is asked for, if it can be: the login with host, instance and version found out, and the
connection with its style of markers. -/
def prepare (o : ConnectOptions) : Except Error (Version × LoginSettings × ConnectionOptions) := do
  let style ← o.markerStyle
  let version ← Version.ofName o.version
  let name ← ServerName.ofValue o.login.server
  let instanceName :=
    if o.login.namesInstance then o.login.instanceName
    else (name.instanceName.map .text).getD .null
  return (version,
    { o.login with server := name.host, instanceName, version := .int version.number },
    { o.connection with style := style.given })

end ConnectOptions

variable {σ : Type} [Session σ]

/-- Sets a connection up, or closes its session. -/
def Connection.establish (ansiDefaults : Bool) : Op σ Unit :=
  tryCatch (setUp ansiDefaults) fun e => do
    modify fun c => { c with session := Session.close c.session }
    throw e

end TdsClient
