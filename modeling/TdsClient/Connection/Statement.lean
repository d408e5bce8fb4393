import TdsClient.Connection.Basic

/-!
# Requests of a connection

Everything that goes through a session goes through `Connection.call`,
which turns what the session delivers into results, warnings and errors.
All messages are recorded. The first of the most severe errors among them
is raised, whether the session succeeded or rejected the request; without
an error, messages of a certain kind become warnings. A lost session
leaves the connection dead, whatever the messages.

The connection's own statements have results that nobody reads, so they
are read to their end and dropped.

## Main definitions

* `call` — an operation of the session.
* `announce` — the outcome of binding values.
* `beginStatement`, `submitFor` — the start of a statement and its request.
* `drain`, `execute` — statements of the connection.

## Main results

* `call_eq_ok` — a call that succeeds did so in the session.
-/

namespace TdsClient.Connection

variable {σ α : Type}

/-! ## Warnings -/

/-- Issues a warning, or raises it. -/
def issue (w : Warning) : Op σ Unit := do
  if (← get).escalates then throw (.warning w)
  else modify fun c => { c with issued := c.issued ++ [w] }

/-- A warning is raised if the connection escalates it, and recorded otherwise. -/
theorem issue_eq (w : Warning) (c : Connection σ) :
    issue w c =
      if c.escalates then .error (.warning w) c
      else .ok () { c with issued := c.issued ++ [w] } := by
  show (if c.escalates then throw (.warning w) else _ : Op σ Unit) c = _
  by_cases h : c.escalates
  · rw [if_pos h, if_pos h]
    rfl
  · rw [if_neg h, if_neg h]
    rfl

/-- Issues warnings in order; the first one that is raised is the last. -/
def issueAll : List Warning → Op σ Unit
  | [] => pure ()
  | w :: rest => do
    issue w
    issueAll rest

/-- The connection after messages were heard. -/
def heard (c : Connection σ) (messages : List Message) : Connection σ :=
  { c with messages := c.messages ++ messages, journal := c.journal ++ messages.map .heard }

/-- Issues a warning of the client, which is recorded as a message too. -/
def warn (text : String) : Op σ Unit := do
  modify fun c => c.heard [.ofClient text]
  issue (.ofClient text)

/-- Issues warnings of the client in order. -/
def warnAll : List String → Op σ Unit
  | [] => pure ()
  | text :: rest => do
    warn text
    warnAll rest

/-- The outcome of binding values, after the warnings on the way. -/
def announce (x : Reported α) : Op σ α := do
  warnAll (x.warnings.map BindingWarning.text)
  .ofExcept x.result

/-! ## Calls -/

/-- The messages of a call that are reported as warnings. -/
def warningsOf (messages : List Message) : List Warning :=
  (messages.filter Message.isReported).map .ofMessage

/-- Raises the worst error among messages, or issues the warnings. -/
def report (messages : List Message) : Op σ Unit :=
  match Message.worst? messages with
  | some m => throw (.database (.ofMessage m))
  | none => issueAll (warningsOf messages)

/-- The error of a rejected request: the worst of its messages, or else what the session says. -/
def rejection (messages : List Message) (text : String) (errorClass : ErrorClass) : Error :=
  match Message.worst? messages with
  | some m => .database (.ofMessage m)
  | none => .database ⟨errorClass, text, none⟩

/-- What follows from a delivery. -/
def settle (d : Delivery α) : Op σ α :=
  match d.result with
  | .ok a => do
    report d.messages
    return a
  | .error (.rejected text errorClass) => throw (rejection d.messages text errorClass)
  | .error (.lost text _) => do
    modify fun c => { c with isDead := true }
    throw (.interface (.sessionLost text))
  | .error (.badData text) => throw (.database ⟨.data, text, none⟩)
  | .error (.unexpected kind) => throw (.unexpected kind)

/-- The connection after its session delivered messages. -/
def received (c : Connection σ) (session : σ) (messages : List Message) : Connection σ :=
  { c.heard messages with session }

/-- Uses the session. -/
def call (work : σ → Delivery α × σ) : Op σ α := do
  checkUsable
  let (delivery, session) := work (← get).session
  modify fun c => c.received session delivery.messages
  settle delivery

/-- Whatever an operation does, it leaves the session alone. -/
def KeepsSession (op : Op σ α) : Prop := ∀ c, (op.after c).session = c.session

theorem keepsSession_issueAll (ws : List Warning) : KeepsSession (issueAll ws : Op σ Unit) := by
  induction ws with
  | nil => exact fun _ => rfl
  | cons w rest ih =>
    intro c
    rw [issueAll, Op.after_bind, issue_eq]
    by_cases h : c.escalates
    · rw [if_pos h]
    · rw [if_neg h]
      exact ih _

theorem keepsSession_report (messages : List Message) :
    KeepsSession (report messages : Op σ Unit) := by
  unfold report
  split
  · exact fun _ => rfl
  · exact keepsSession_issueAll _

/-- What is settled successfully is what was delivered, and the session is left alone. -/
theorem settle_eq_ok {d : Delivery α} {c c' : Connection σ} {a : α}
    (h : settle d c = .ok a c') : d.result = .ok a ∧ c'.session = c.session := by
  unfold settle at h
  rcases heq : d.result with failure | b
  · simp only [heq] at h
    cases failure <;> cases h
  · simp only [heq] at h
    obtain ⟨_, e, hr, hp⟩ := Op.bind_eq_ok.1 h
    have keep := keepsSession_report d.messages c
    rw [Op.after, hr] at keep
    cases hp
    exact ⟨rfl, keep⟩

/-- A call that succeeds did so in the session, and the connection has the session as it is
afterwards. -/
theorem call_eq_ok {work : σ → Delivery α × σ} {c c' : Connection σ} {a : α}
    (h : call work c = .ok a c') :
    (work c.session).1.result = .ok a ∧ c'.session = (work c.session).2 := by
  obtain ⟨_, d, usable, used⟩ := Op.bind_eq_ok.1 h
  obtain ⟨rfl, _⟩ := checkUsable_eq_ok usable
  obtain ⟨_, _, got, delivered⟩ := Op.bind_eq_ok.1 used
  cases got
  obtain ⟨_, _, recorded, settled⟩ := Op.bind_eq_ok.1 delivered
  cases recorded
  exact settle_eq_ok settled

variable [Session σ]

/-! ## Statements of the connection -/

/-- Begins a statement of a cursor, or of the connection itself. -/
def beginStatement (i : Option Nat) : Op σ Unit := do
  checkUsable
  modify fun c => c.begun i

/-- Asks a session for what a request asks for: to call a procedure, or to execute a batch. -/
def ask (r : Request) (session : σ) : Delivery Unit × σ :=
  match r.procedure with
  | some procedure => Session.submitCall procedure r.parameters session
  | none => Session.submitBatch r.sql session

/-- Submits a request of a cursor, or of the connection itself. -/
def submitFor (owner : Option Nat) (r : Request) : Op σ Unit := do
  checkUsable
  modify fun c => { c with journal := c.journal ++ [.submitted owner r] }
  call (ask r)

/-- Reads a row and drops it. -/
def skipRow (_ : Unit) : Op σ (ForInStep Unit) := do
  match ← call Session.fetchRow with
  | some _ => return .yield ()
  | none => return .done ()

theorem consumes_skipRow : Op.Consumes (skipRow (σ := σ)) := by
  intro _ c _ c' h
  obtain ⟨row, d, hc, h⟩ := Op.bind_eq_ok.1 h
  obtain ⟨ok, eq⟩ := call_eq_ok hc
  cases row <;> cases h
  exact eq ▸ Session.remaining_fetchRow _ _ ok

theorem skipRow_le {r : ForInStep Unit} {c c' : Connection σ} (h : skipRow () c = .ok r c') :
    Session.remaining c'.session ≤ Session.remaining c.session := by
  obtain ⟨row, d, hc, h⟩ := Op.bind_eq_ok.1 h
  obtain ⟨_, eq⟩ := call_eq_ok hc
  have le := Session.remaining_fetchRow_le c.session
  rw [← eq] at le
  cases row <;> cases h <;> exact le

/-- Drops the rows of the current result. -/
def skipRows : Op σ Unit := .loop skipRow consumes_skipRow ()

/-- Reads a result and drops it. -/
def skipResult (_ : Unit) : Op σ (ForInStep Unit) := do
  match ← call Session.nextResult with
  | none => return .done ()
  | some [] => return .yield ()
  | some (_ :: _) =>
    skipRows
    return .yield ()

theorem consumes_skipResult : Op.Consumes (skipResult (σ := σ)) := by
  intro _ c _ c' h
  obtain ⟨columns, d, hc, h⟩ := Op.bind_eq_ok.1 h
  obtain ⟨ok, eq⟩ := call_eq_ok hc
  match columns with
  | none => cases h
  | some [] =>
    cases h
    exact eq ▸ Session.remaining_nextResult _ _ ok
  | some (column :: rest) =>
    obtain ⟨_, e, hs, h⟩ := Op.bind_eq_ok.1 h
    cases h
    have le := Op.loop_eq_ok_le (fun _ _ _ _ => skipRow_le) hs
    have lt := Session.remaining_nextResult _ _ ok
    rw [← eq] at lt
    omega

/-- Reads the response to its end. -/
def drain : Op σ Unit := .loop skipResult consumes_skipResult ()

/-- Executes a statement of the connection itself. -/
def execute (sql : String) : Op σ Unit := do
  beginStatement none
  submitFor none { sql }
  drain

end TdsClient.Connection
