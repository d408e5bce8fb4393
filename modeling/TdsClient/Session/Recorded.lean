import TdsClient.Session.Basic

/-!
# Recorded sessions

A session that keeps a record of how it is used, and of which uses failed.
What a client asks of its session is the only thing that reaches a server,
so statements about what a client does, or never does, are statements about
this record.

## Main definitions

* `SessionCall` — what a session is used for.
* `SessionUse` — a use of a session, and why it failed.
* `Recorded` — a session and how it was used.
-/

namespace TdsClient

/-- What a session is used for. -/
inductive SessionCall
  | timeout (seconds : Int)
  | batch (sql : String)
  | call (procedure : String) (parameters : List BoundParameter)
  | nextResult
  | fetchRow
  | bulkCopy (columns : List Column) (declarations : List String) (rows : List (List Value))
  | close

/-- A use of a session, and why it failed if it did. -/
structure SessionUse where
  call : SessionCall
  failure : Option SessionFailure := none

/-- Whether the session was lost by a use. -/
def SessionUse.isLost (u : SessionUse) : Bool :=
  match u.failure with
  | some (.lost ..) => true
  | _ => false

/-- Why an operation of a session failed, if it did. -/
def Delivery.failure? {α : Type} (d : Delivery α) : Option SessionFailure :=
  match d.result with
  | .error failure => some failure
  | .ok _ => none

/-- A session with a record of its uses, the earliest first. -/
structure Recorded (σ : Type) where
  session : σ
  uses : List SessionUse := []

namespace Recorded

variable {σ α : Type}

/-- What the session was used for. -/
def calls (r : Recorded σ) : List SessionCall := r.uses.map (·.call)

/-- A use that gives something. -/
def exchange (call : SessionCall) (work : σ → Delivery α × σ) (r : Recorded σ) :
    Delivery α × Recorded σ :=
  let (delivery, session) := work r.session
  (delivery, ⟨session, r.uses ++ [⟨call, delivery.failure?⟩]⟩)

/-- A use that only changes the session. -/
def change (call : SessionCall) (work : σ → σ) (r : Recorded σ) : Recorded σ :=
  ⟨work r.session, r.uses ++ [⟨call, none⟩]⟩

instance [Session σ] : Session (Recorded σ) where
  version r := Session.version r.session
  spid r := Session.spid r.session
  database r := Session.database r.session
  rowCount r := Session.rowCount r.session
  returnStatus r := Session.returnStatus r.session
  outputs r := Session.outputs r.session
  setTimeout seconds := change (.timeout seconds) (Session.setTimeout seconds)
  submitBatch sql := exchange (.batch sql) (Session.submitBatch sql)
  submitCall procedure parameters :=
    exchange (.call procedure parameters) (Session.submitCall procedure parameters)
  nextResult := exchange .nextResult Session.nextResult
  fetchRow := exchange .fetchRow Session.fetchRow
  bulkCopy columns declarations rows :=
    exchange (.bulkCopy columns declarations rows) (Session.bulkCopy columns declarations rows)
  close := change .close Session.close
  remaining r := Session.remaining r.session
  remaining_nextResult r := Session.remaining_nextResult r.session
  remaining_fetchRow r := Session.remaining_fetchRow r.session
  remaining_fetchRow_le r := Session.remaining_fetchRow_le r.session

end Recorded

end TdsClient
