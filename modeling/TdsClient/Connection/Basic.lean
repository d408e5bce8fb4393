import TdsClient.Cursor.Record
import TdsClient.Session.Basic

/-!
# Connections

A connection owns a session, which all its cursors share. At most one
cursor is active, the one whose statement was submitted last; as soon as
another statement begins its unread results are lost.

Operations may fail and still have changed the connection: a failed
statement leaves messages behind, and a lost session a dead connection. So
an operation gives a result or an error, and in both cases the connection
as it is afterwards.

Warnings are issued to the program, or raised as errors if the connection
escalates them. Those that were issued are recorded in order.

A connection also keeps a journal of what happens on it: which statements
begin, which requests are submitted on whose behalf, and which messages
are heard. The operations never look at it. It is the order of events that
the messages and results of the cursors are compared with.

## Main definitions

* `Event` — an entry of the journal.
* `Connection` — the state.
* `Op` — an operation on it.
* `Op.after` — the connection after an operation.
* `Op.loop` — repeating a step that consumes the response.

## Main results

* `bind_eq_ok`, `after_bind` — an operation after another one.
* `loop_eq_ok_le`, `loop_eq_ok_lt` — how much of the response a loop leaves.
-/

namespace TdsClient

/-- What happens on a connection. Statements and requests have an owner, which is a cursor or, if
there is none, the connection itself. Messages are heard from the server or made by the client. -/
inductive Event
  | began (owner : Option Nat)
  | submitted (owner : Option Nat) (request : Request)
  | heard (m : Message)

/-- A connection: its session, whether it was closed and whether the session was lost, its
options, the messages of the current statement, the warnings issued, its cursors, the active one,
the one whose statement is the current one, and the journal, the earliest event first. -/
structure Connection (σ : Type) where
  session : σ
  isOpen : Bool := true
  isDead : Bool := false
  style : ParamStyle := .numeric
  autocommitMode : Value := .bool false
  bulkCopyEnabled : Bool := true
  timeout : Value := .null
  escalation : Value := .bool false
  inference : Inference
  messages : List Message := []
  issued : List Warning := []
  cursors : List CursorRecord := []
  active : Option Nat := none
  listener : Option Nat := none
  journal : List Event := []

/-- An operation on a connection. -/
abbrev Op (σ α : Type) := EStateM Error (Connection σ) α

namespace Op

variable {σ α β : Type}

/-- The connection after an operation, whether it succeeds or fails. -/
def after (op : Op σ α) (c : Connection σ) : Connection σ :=
  match op c with
  | .ok _ c => c
  | .error _ c => c

/-- A result that does not depend on the connection. -/
def ofExcept (result : Except Error α) : Op σ α :=
  match result with
  | .ok a => pure a
  | .error e => throw e

/-- An operation after another one succeeds if both do. -/
theorem bind_eq_ok {x : Op σ α} {f : α → Op σ β} {c c' : Connection σ} {b : β} :
    (x >>= f) c = .ok b c' ↔ ∃ a d, x c = .ok a d ∧ f a d = .ok b c' := by
  show EStateM.bind x f c = .ok b c' ↔ _
  unfold EStateM.bind
  cases x c with
  | ok a d => exact ⟨fun h => ⟨a, d, rfl, h⟩, fun ⟨_, _, eq, h⟩ => by cases eq; exact h⟩
  | error e d => exact ⟨nofun, fun ⟨_, _, eq, _⟩ => nomatch eq⟩

/-- A result that does not depend on the connection is given if there is one. -/
theorem ofExcept_eq_ok_iff {result : Except Error α} {c c' : Connection σ} {a : α} :
    (ofExcept result : Op σ α) c = .ok a c' ↔ result = .ok a ∧ c' = c := by
  cases result with
  | ok b =>
      constructor
      · intro h
        cases h
        exact ⟨rfl, rfl⟩
      · rintro ⟨hresult, rfl⟩
        cases hresult
        rfl
  | error e => exact ⟨nofun, fun h => nomatch h.1⟩

/-- The connection after two operations. -/
theorem after_bind (x : Op σ α) (f : α → Op σ β) (c : Connection σ) :
    (x >>= f).after c =
      match x c with
      | .ok a d => (f a).after d
      | .error _ d => d := by
  show Op.after (EStateM.bind x f) c = _
  unfold after EStateM.bind
  cases x c <;> rfl

/-! ## Loops -/

variable [Session σ]

/-- A step consumes the response if there is less of it left whenever the step is to be
repeated. -/
def Consumes (step : β → Op σ (ForInStep β)) : Prop :=
  ∀ b c b' c', step b c = .ok (.yield b') c' →
    Session.remaining c'.session < Session.remaining c.session

/-- Repeats a step that consumes the response until it says that it is done. -/
def loop (step : β → Op σ (ForInStep β)) (consumes : Consumes step) (b : β) : Op σ β := fun c =>
  match _stepped : step b c with
  | .ok (.done b) c' => .ok b c'
  | .ok (.yield b) c' => loop step consumes b c'
  | .error e c' => .error e c'
termination_by c => Session.remaining c.session
decreasing_by exact consumes _ _ _ _ ‹_›

/-- If a step that says it is done with a certain value has consumed something, so has a loop
that ends with such a value. -/
theorem loop_eq_ok_lt {step : β → Op σ (ForInStep β)} {consumes : Consumes step}
    {P : β → Prop}
    (lt : ∀ b c b' c', step b c = .ok (.done b') c' → P b' →
      Session.remaining c'.session < Session.remaining c.session)
    {b b' : β} {c c' : Connection σ} (h : loop step consumes b c = .ok b' c') (hb : P b') :
    Session.remaining c'.session < Session.remaining c.session := by
  rw [loop] at h
  split at h
  next d heq =>
    cases h
    exact lt _ _ _ _ heq hb
  next d heq =>
    have less := consumes _ _ _ _ heq
    exact Nat.lt_trans (loop_eq_ok_lt lt h hb) less
  · cases h
termination_by Session.remaining c.session

/-- If no step makes the response longer, the loop does not either. -/
theorem loop_eq_ok_le {step : β → Op σ (ForInStep β)} {consumes : Consumes step}
    (le : ∀ b c r c', step b c = .ok r c' →
      Session.remaining c'.session ≤ Session.remaining c.session)
    {b b' : β} {c c' : Connection σ} (h : loop step consumes b c = .ok b' c') :
    Session.remaining c'.session ≤ Session.remaining c.session := by
  rw [loop] at h
  split at h
  next d heq =>
    cases h
    exact le _ _ _ _ heq
  next d heq =>
    have less := consumes _ _ _ _ heq
    exact Nat.le_trans (loop_eq_ok_le le h) (Nat.le_of_lt less)
  · cases h
termination_by Session.remaining c.session

end Op

namespace Connection

variable {σ : Type}

/-- Whether every statement commits by itself. -/
def autocommit (c : Connection σ) : Bool := c.autocommitMode.isTrue

/-- Whether warnings are raised. -/
def escalates (c : Connection σ) : Bool := c.escalation.isTrue

/-! ## Changing cursors -/

/-- A connection with one of its cursors changed. -/
def modifyCursor (c : Connection σ) (i : Nat) (f : CursorRecord → CursorRecord) :
    Connection σ :=
  { c with cursors := c.cursors.modify i f }

/-- A connection with a cursor changed, if there is one. -/
def modifyCursor? (c : Connection σ) (i : Option Nat) (f : CursorRecord → CursorRecord) :
    Connection σ :=
  match i with
  | some i => c.modifyCursor i f
  | none => c

/-- The messages of the statement that a cursor executed last. -/
def messagesOf (c : Connection σ) (i : Nat) (r : CursorRecord) : List Message :=
  if c.listener = some i then c.messages else r.messages

/-- A new statement begins, of a cursor or of the connection itself. The cursor of the statement
before keeps its messages, and another active cursor loses its results. -/
def begun (c : Connection σ) (i : Option Nat) : Connection σ :=
  let kept := c.modifyCursor? c.listener fun r => { r with messages := c.messages }
  let detached := if c.active = i then kept else kept.modifyCursor? c.active CursorRecord.detach
  { detached with
    active := i
    listener := i
    messages := []
    journal := c.journal ++ [.began i] }

/-- A cursor gives up being the active one. -/
def release (c : Connection σ) (i : Nat) : Connection σ :=
  if c.active = some i then { c with active := none } else c

/-! ## Whether it can be used -/

/-- Why a connection cannot be asked for anything, if so. -/
def closedFault? (c : Connection σ) : Option InterfaceFault :=
  if c.isOpen then none else some .connectionClosed

/-- Why a connection cannot be used for requests, if so. -/
def fault? (c : Connection σ) : Option InterfaceFault :=
  if !c.isOpen then some .connectionClosed
  else if c.isDead then some .connectionDead
  else none

/-- Fails if there is a fault. -/
def refuseIf (fault : Option InterfaceFault) : Op σ Unit :=
  match fault with
  | some fault => throw (.interface fault)
  | none => pure ()

/-- Fails if the connection was closed. -/
def checkOpen : Op σ Unit := fun c => refuseIf c.closedFault? c

/-- Fails if the connection cannot be used for requests. -/
def checkUsable : Op σ Unit := fun c => refuseIf c.fault? c

/-- A check that is passed changes nothing, and there is no fault. -/
theorem checkUsable_eq_ok {c c' : Connection σ} {u : Unit} (h : checkUsable c = .ok u c') :
    c' = c ∧ c.fault? = none := by
  unfold checkUsable refuseIf at h
  rcases hf : c.fault? with _ | fault <;> simp only [hf] at h <;> cases h
  exact ⟨rfl, rfl⟩

end Connection

end TdsClient
