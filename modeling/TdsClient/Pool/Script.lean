import TdsClient.Pool

/-!
# Scripted use of a pool

A pool together with a stand-in for the database and the clock, and the
actions that a script takes on them. New connections are numbered in the
order in which they are opened; a script says which rollbacks and whether
connecting are refused, and moves the clock.

While an action waits, the script acts in place of the other threads: it
lists the actions that happen at the waits, one at each. A wait for which
none is left would never end.

## Main definitions

* `PoolAction` — the actions.
* `PoolScript.perform` — an action on the pool and its surroundings.
-/

namespace TdsClient

/-- An action of a script. What is done while taking a connection waits stays in force until
the next list of such actions. Closing a connection may be refused too, which a pool ignores. -/
inductive PoolAction
  | acquire (onWait : List PoolAction)
  | release (connection : Nat)
  | advance (seconds : Rat)
  | refuseRollback (connection : Nat) (refuse : Bool)
  | refuseClose (connection : Nat) (refuse : Bool)
  | refuseConnect (refuse : Bool)
  /-- Takes a connection, uses it and returns it; using it may fail. -/
  | use (failure : Option PoolError)
  | finalize

instance : Inhabited PoolAction := ⟨.finalize⟩

mutual

/-- Number of actions in an action. -/
def PoolAction.weight : PoolAction → Nat
  | .acquire onWait => PoolAction.weights onWait + 1
  | _ => 1

/-- Number of actions in a list of actions. -/
def PoolAction.weights : List PoolAction → Nat
  | [] => 0
  | action :: rest => action.weight + PoolAction.weights rest

end

/-- A pool and its surroundings: the clock, the number of the next connection, the connections
whose rollback is refused, whether connecting is, what happens at the next waits, and what has
been done so far. -/
structure PoolScript where
  pool : Pool
  now : Rat := 0
  nextConnection : Nat := 0
  refusing : List Nat := []
  refusesConnect : Bool := false
  onWait : List PoolAction := []
  events : List PoolEvent := []
  warnings : List String := []

namespace PoolScript

/-- The result of an action: the number of a connection, if it gives one. -/
abbrev Result := Except PoolError (Option Nat)

/-- The state after an operation of the pool. -/
def settled {α : Type} (s : PoolScript) (o : PoolOutcome α) : PoolScript :=
  { s with pool := o.pool, events := s.events ++ o.events }

/-- What connecting gives. -/
def connection (s : PoolScript) : Except PoolError Nat :=
  if s.refusesConnect then .error .refused else .ok s.nextConnection

/-- Takes a connection that need not be waited for. -/
def acquireNow (s : PoolScript) : Except PoolError Nat × PoolScript :=
  let o := s.pool.acquire s.now s.connection
  let next := match o.result with
    | .ok connection => max s.nextConnection (connection + 1)
    | .error _ => s.nextConnection
  (o.result, { s.settled o with nextConnection := next })

/-- Returns a connection. -/
def releaseNow (s : PoolScript) (connection : Nat) : Except PoolError Unit × PoolScript :=
  let o := s.pool.release s.now connection
    (if connection ∈ s.refusing then .refused else .done)
  (o.result, s.settled o)

/-- Closes the pool. -/
def finalizeNow (s : PoolScript) : Except PoolError Unit × PoolScript :=
  let o := s.pool.finalize
  let warnings := if s.pool.hasUnreleased then [Pool.unreleasedText] else []
  (o.result, { s.settled o with warnings := s.warnings ++ warnings })

/-- Refuses the rollback of a connection from now on, or no longer. -/
def setRefusal (s : PoolScript) (connection : Nat) (refuse : Bool) : PoolScript :=
  { s with refusing :=
      if refuse then connection :: s.refusing else s.refusing.filter (· ≠ connection) }

mutual

/-- Waits until a connection can be taken. -/
def await (fuel : Nat) (s : PoolScript) : Except PoolError Unit × PoolScript :=
  match fuel with
  | 0 => (.error .wouldBlock, s)
  | fuel + 1 =>
    if s.pool.mustWait then
      let s := { s with events := s.events ++ [PoolEvent.wait] }
      match s.onWait with
      | [] => (.error .wouldBlock, s)
      | action :: rest =>
        match performWith fuel { s with onWait := rest } action with
        | (.error e, s) => (.error e, s)
        | (.ok _, s) => await fuel s
    else (.ok (), s)

/-- An action, with a bound on the waits in it. -/
def performWith (fuel : Nat) (s : PoolScript) (action : PoolAction) : Result × PoolScript :=
  match fuel with
  | 0 => (.error .wouldBlock, s)
  | fuel + 1 =>
    match action with
    | .acquire onWait =>
      match await fuel { s with onWait := onWait } with
      | (.error e, s) => (.error e, s)
      | (.ok (), s) =>
        let (result, s) := s.acquireNow
        (result.map some, s)
    | .release connection =>
      let (result, s) := s.releaseNow connection
      (result.map fun _ => none, s)
    | .advance seconds => (.ok none, { s with now := s.now + seconds })
    | .refuseRollback connection refuse => (.ok none, s.setRefusal connection refuse)
    | .refuseClose _ _ => (.ok none, s)
    | .refuseConnect refuse => (.ok none, { s with refusesConnect := refuse })
    | .use failure =>
      match await fuel s with
      | (.error e, s) => (.error e, s)
      | (.ok (), s) =>
        match s.acquireNow with
        | (.error e, s) => (.error e, s)
        | (.ok connection, s) =>
          match s.releaseNow connection with
          | (.error e, s) => (.error e, s)
          | (.ok (), s) =>
            match failure with
            | some e => (.error e, s)
            | none => (.ok (some connection), s)
    | .finalize =>
      let (result, s) := s.finalizeNow
      (result.map fun _ => none, s)

end

/-- An action on a pool and its surroundings. There are no more waits in it than there are
actions to happen at them. -/
def perform (s : PoolScript) (action : PoolAction) : Result × PoolScript :=
  performWith (2 * (action.weight + PoolAction.weights s.onWait) + 4) s action

end PoolScript

end TdsClient
