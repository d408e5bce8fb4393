/-!
# Connection pools

A pool keeps open connections for later use, the one returned longest ago
first. Connections idle for longer than a limit are closed when the next
one is taken. A pool may hold at most a number of connections; if it
blocks, taking one waits until there is room, else more are opened, and
closed again when they come back.

Everything a pool does under its lock is one step here, and the steps say
what they do to the outside: connections opened, rolled back and closed,
and waiting threads notified. Rolling back happens outside the lock, so
returning a connection is two steps.

A connection that cannot be rolled back for a reason of the database is
closed; any other failure of the rollback is passed on, and the connection
is neither kept nor closed.

## Main definitions

* `Pool.mustWait` — whether taking a connection has to wait.
* `Pool.take` — the idle connection to use, after closing expired ones.
* `Pool.acquire`, `Pool.release`, `Pool.finalize` — the operations.
-/

namespace TdsClient

/-- The rules of a pool: how long a connection may be idle, how many connections it keeps, and
whether it waits rather than opening more. -/
structure PoolSettings where
  idleLimit : Option Rat := none
  maxSize : Option Int := none
  block : Bool := false

/-- An idle connection and when it came back. -/
structure IdleConnection where
  connection : Nat
  released : Rat
deriving DecidableEq

/-- A pool: its rules, the idle connections, the one returned longest ago first, and how many
connections are open, idle or in use. -/
structure Pool where
  settings : PoolSettings
  idle : List IdleConnection := []
  opened : Nat := 0

/-- What a pool does to the outside. -/
inductive PoolEvent
  | connect
  | rollback (connection : Nat)
  | close (connection : Nat)
  | notify
  | wait
deriving DecidableEq

/-- Why an operation of a pool fails: more connections came back than were taken, the database
refuses to connect, no other thread will make room, or the connection or the code using it fails
for reasons of its own. -/
inductive PoolError
  | overReleased
  | refused
  | wouldBlock
  | failed (kind : String)
deriving DecidableEq

/-- The wording, for the errors that have one of their own. -/
def PoolError.text? : PoolError → Option String
  | .overReleased => some "release() called twice for a connection"
  | _ => none

/-- How a rollback ends: as it should, refused by the database, or otherwise. -/
inductive Rollback
  | done
  | refused
  | failed (kind : String)
deriving DecidableEq

/-- The outcome of an operation: what it did, its result, and the pool afterwards. -/
structure PoolOutcome (α : Type) where
  events : List PoolEvent
  result : Except PoolError α
  pool : Pool

namespace Pool

/-- Whether taking a connection has to wait: none is idle, and no more may be opened. -/
def mustWait (p : Pool) : Bool :=
  match p.settings.maxSize with
  | some maxSize => p.settings.block && p.idle.isEmpty && maxSize ≤ p.opened
  | none => false

/-- Whether a connection has been idle for longer than the limit. -/
def isExpired (s : PoolSettings) (now : Rat) (i : IdleConnection) : Bool :=
  match s.idleLimit with
  | some limit => i.released + limit < now
  | none => false

/-- Whether one more connection can be kept. -/
def hasRoom (p : Pool) : Bool :=
  match p.settings.maxSize with
  | some maxSize => (p.idle.length : Int) < maxSize
  | none => true

/-- Closes a connection that is not idle. -/
def close (p : Pool) (connection : Nat) : PoolOutcome Unit :=
  match p.opened with
  | 0 => ⟨[], .error .overReleased, p⟩
  | n + 1 => ⟨[.close connection], .ok (), { p with opened := n }⟩

/-- Takes the first idle connection that has not expired and closes those before it. -/
def takeFrom (p : Pool) (now : Rat) : List IdleConnection → PoolOutcome (Option Nat)
  | [] => ⟨[], .ok none, { p with idle := [] }⟩
  | i :: rest =>
    if isExpired p.settings now i then
      match p.opened with
      | 0 => ⟨[], .error .overReleased, { p with idle := rest }⟩
      | n + 1 =>
        let taken := takeFrom { p with opened := n } now rest
        { taken with events := .close i.connection :: taken.events }
    else ⟨[], .ok (some i.connection), { p with idle := rest }⟩

/-- Takes an idle connection, if there is one that has not expired. -/
def take (p : Pool) (now : Rat) : PoolOutcome (Option Nat) := p.takeFrom now p.idle

/-- Takes a connection that need not be waited for: an idle one, or a new one, which is what
connecting gives. -/
def acquire (p : Pool) (now : Rat) (connected : Except PoolError Nat) : PoolOutcome Nat :=
  let taken := p.take now
  match taken.result with
  | .error e => { taken with result := .error e }
  | .ok (some connection) => { taken with result := .ok connection }
  | .ok none =>
    let events := taken.events ++ [.connect]
    match connected with
    | .error e => ⟨events, .error e, taken.pool⟩
    | .ok connection =>
      ⟨events, .ok connection, { taken.pool with opened := taken.pool.opened + 1 }⟩

/-- Tells one waiting thread, if what was done before succeeded. -/
def notifyAfter (done : PoolOutcome Unit) : PoolOutcome Unit :=
  match done.result with
  | .ok () => { done with events := done.events ++ [.notify] }
  | .error _ => done

/-- Keeps a connection that was rolled back, or closes it if there is no room. -/
def giveBack (p : Pool) (now : Rat) (connection : Nat) : PoolOutcome Unit :=
  notifyAfter <|
    if p.hasRoom then ⟨[], .ok (), { p with idle := p.idle ++ [⟨connection, now⟩] }⟩
    else p.close connection

/-- Closes a connection that could not be rolled back. -/
def discard (p : Pool) (connection : Nat) : PoolOutcome Unit := notifyAfter (p.close connection)

/-- Returns a connection to the pool after rolling it back. -/
def release (p : Pool) (now : Rat) (connection : Nat) (rollback : Rollback) : PoolOutcome Unit :=
  let rest :=
    match rollback with
    | .done => p.giveBack now connection
    | .refused => p.discard connection
    | .failed kind => ⟨[], .error (.failed kind), p⟩
  { rest with events := .rollback connection :: rest.events }

/-- Closes idle connections in order. -/
def closeAll (p : Pool) : List IdleConnection → PoolOutcome Unit
  | [] => ⟨[], .ok (), { p with idle := [], opened := 0 }⟩
  | i :: rest =>
    match p.opened with
    | 0 => ⟨[], .error .overReleased, { p with idle := rest.reverse }⟩
    | n + 1 =>
      let closed := closeAll { p with opened := n } rest
      { closed with events := .close i.connection :: closed.events }

/-- Whether connections are in use. -/
def hasUnreleased (p : Pool) : Bool := p.opened ≠ p.idle.length

/-- The warning of closing a pool whose connections are in use. -/
def unreleasedText : String := "finalize() called with unreleased connections"

/-- Closes all idle connections, the one returned last first, and counts no connection as open
any more. -/
def finalize (p : Pool) : PoolOutcome Unit := p.closeAll p.idle.reverse

end Pool

end TdsClient
