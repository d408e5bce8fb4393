import TdsClient.Backoff
import TdsClient.Error
import TdsClient.Version

/-!
# Logging in

A login is tried again until it succeeds, the server refuses it, or the
time for it is up. The first attempt gets a second, or the whole time if
that is less.

A server is reached by its TCP port, or by the name of an instance on it, in
which case the TCP port is found out by the protocol. A user is identified by
a password that goes with the login, or by a separate exchange, and then
the login itself names no user.

## Main definitions

* `LoginSettings` — what a login needs.
* `LoginAttempt` — what an attempt asks for.
* `LoginSettings.run` — a login on a schedule of attempts.
-/

namespace TdsClient

/-- What a login needs, as it was given. Times are in seconds. -/
structure LoginSettings where
  server : Value
  tcpPort : Value := .int 1433
  instanceName : Value := .null
  user : Value := .text ""
  password : Value := .text ""
  database : Value := .null
  application : Value := .text "tdsbind"
  clientHost : Value := .null
  loginTimeout : Value := .int 5
  timeout : Value := .int 5
  version : Value := .int Version.v74.number
  readOnly : Value := .bool false
  exchangesCredentials : Value := .bool false

/-- What an attempt asks for. A user is named with a password, or credentials are exchanged. -/
structure LoginAttempt where
  source : Value
  tcpPort : Value
  database : Value
  user : Value
  password : Value
  credentials : Option (Value × Value)
  timeout : Value
  allotment : Rat
  application : Value
  version : Value
  readOnly : Value

/-- Why an attempt fails: the server refuses the login, which is final, or something else. -/
inductive LoginFailure
  | refused (text : String)
  | failed
deriving DecidableEq

/-- What the server says. -/
def LoginFailure.text : LoginFailure → String
  | .refused text => text
  | .failed => ""

/-- What happened in a login. -/
structure LoginRun where
  attempts : List LoginAttempt
  pauses : List Rat
  clock : Rat
  result : Except Error Unit

namespace LoginSettings

/-- A value that counts as true, or null. -/
def present (value : Value) : Value := if value.isTrue then value else .null

/-- Whether an instance is named. -/
def namesInstance (s : LoginSettings) : Bool := s.instanceName.isTrue

/-- What a login connects to. -/
def source (s : LoginSettings) : Value :=
  if s.namesInstance then .text (s.server.display ++ "\\" ++ s.instanceName.display) else s.server

/-- The attempt with a time allotted to it. -/
def attempt (s : LoginSettings) (allotment : Rat) : LoginAttempt :=
  let apart := s.exchangesCredentials.isTrue
  { source := s.source
    tcpPort := if s.namesInstance then .null else s.tcpPort
    database := s.database
    user := if apart then .null else present s.user
    password := if apart then .null else present s.password
    credentials := if apart then some (s.user, s.password) else none
    timeout := present s.timeout
    allotment := allotment
    application := s.application
    version := s.version
    readOnly := s.readOnly }

/-- How long to try. -/
def policy (limit : Rat) : Backoff.Policy := { limit, first := Backoff.shorter limit 1 }

/-- The settings with one changed that has a name. -/
def set? (s : LoginSettings) (value : Value) : String → Option LoginSettings
  | "server" => some { s with server := value }
  | "port" => some { s with tcpPort := value }
  | "instance" => some { s with instanceName := value }
  | "user" => some { s with user := value }
  | "password" => some { s with password := value }
  | "database" => some { s with database := value }
  | "appname" => some { s with application := value }
  | "hostname" => some { s with clientHost := value }
  | "login_timeout" => some { s with loginTimeout := value }
  | "timeout" => some { s with timeout := value }
  | "tds_version" => some { s with version := value }
  | "read_only" => some { s with readOnly := value }
  | "ntlmv2" => some { s with exchangesCredentials := value }
  | _ => none

/-- The settings with those changed that are given by name. There are no others. -/
def change (s : LoginSettings) (options : List (String × Value)) : Except Error LoginSettings :=
  options.foldlM (fun s (name, value) => Error.require .unsuitable (s.set? value name)) s

/-- The settings by name. -/
def named (s : LoginSettings) : List (String × Value) := [
  ("server", s.server), ("port", s.tcpPort), ("instance", s.instanceName), ("user", s.user),
  ("password", s.password), ("database", s.database), ("appname", s.application),
  ("hostname", s.clientHost), ("login_timeout", s.loginTimeout), ("timeout", s.timeout),
  ("tds_version", s.version), ("read_only", s.readOnly), ("ntlmv2", s.exchangesCredentials)]

/-- A refusal is raised again, so that no further attempt is made. -/
def handle : LoginFailure → Except LoginFailure Unit
  | .refused text => .error (.refused text)
  | .failed => .ok ()

/-- The error of a login that does not succeed. -/
def operational (text : String) : Error := .database ⟨.operational, text, none⟩

/-- What a run of attempts comes to. -/
def outcome (s : LoginSettings) : Backoff.Outcome LoginFailure Unit → Except Error Unit
  | .succeeded () => .ok ()
  | .stopped failure => .error (operational failure.text)
  | .gaveUp attempts =>
    .error (operational
      ("Unable to connect to " ++ s.source.display ++ ": " ++
        Backoff.gaveUpText attempts s.loginTimeout))

/-- The time for a login. It is compared with a second before it is used as a number. -/
def limit (s : LoginSettings) : Except Error Rat :=
  match Value.less (.int 1) s.loginTimeout, Backoff.seconds? s.loginTimeout with
  | .error cause, _ => .error (.misuse (.comparison cause))
  | .ok _, some limit => .ok limit
  | .ok _, none => .error (.misuse .unsuitable)

/-- A login without any attempt. -/
def refused (e : Error) : LoginRun :=
  { attempts := [], pauses := [], clock := 0, result := .error e }

/-- A login on a schedule of attempts. No attempt is made if the time for it is no number. -/
def run (s : LoginSettings) (schedule : Nat → Backoff.Attempt LoginFailure Unit) : LoginRun :=
  match s.limit with
  | .error e => refused e
  | .ok limit =>
    let r := Backoff.run (policy limit) handle schedule
    { attempts := r.allotments.map s.attempt
      pauses := r.pauses
      clock := r.clock
      result := s.outcome r.outcome }

/-- A login with settings that may not be right. -/
def runGiven (settings : Except Error LoginSettings)
    (schedule : Nat → Backoff.Attempt LoginFailure Unit) : LoginRun :=
  match settings with
  | .ok s => s.run schedule
  | .error e => refused e

end LoginSettings

end TdsClient
