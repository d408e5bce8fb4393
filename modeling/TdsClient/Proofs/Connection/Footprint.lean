import TdsClient.Connection.BulkInsert
import TdsClient.Connection.Transaction
import TdsClient.Proofs.Connection.Ownership
import TdsClient.Proofs.Connection.Report
import TdsClient.Session.Recorded

/-!
# The footprint of a connection's own operations

All that an operation does to a session is to use it, and the session is
then as its uses leave it, one after the other. Beside the session only the
mode of the transactions matters to the server. A licence says what an
operation may use the session for and what mode it may set; an operation
keeps to a licence if this is all it does, however it ends.

## Main definitions

* `SessionCall.turn` — the session after a use of it.
* `Licence`, `Touch` — what an operation may do, and a step that is allowed.
* `Op.Uses` — an operation that keeps to a licence.

## Main results

* `Op.Uses.after` — what such an operation leaves of the session and the mode.
* `after_execute` — a statement is submitted, and then its response is read.
-/

namespace TdsClient

open Relation Connection

variable {σ α β : Type}

/-! ## Uses of a session -/

/-- Whether a use only reads a response. -/
def SessionCall.isRead : SessionCall → Bool
  | .nextResult | .fetchRow => true
  | _ => false

/-- The use that a request makes. -/
def Request.use (r : Request) : SessionCall :=
  match r.procedure with
  | some procedure => .call procedure r.parameters
  | none => .batch r.sql

/-- The session after a use of it. -/
def SessionCall.turn [Session σ] (s : σ) : SessionCall → σ
  | .timeout seconds => Session.setTimeout seconds s
  | .batch sql => (Session.submitBatch sql s).2
  | .call procedure parameters => (Session.submitCall procedure parameters s).2
  | .nextResult => (Session.nextResult s).2
  | .fetchRow => (Session.fetchRow s).2
  | .bulkCopy columns declarations rows => (Session.bulkCopy columns declarations rows s).2
  | .close => Session.close s

theorem turn_use [Session σ] (r : Request) (s : σ) : r.use.turn s = (ask r s).2 := by
  unfold Request.use ask
  cases r.procedure <;> rfl

/-! ## Licences -/

/-- What an operation may use the session for, and which mode it may set. -/
structure Licence where
  use : SessionCall → Prop
  mode : Value → Prop := fun _ => False

/-- A step that is allowed: it uses the session, leaves it alone, or sets the mode. -/
inductive Touch [Session σ] (L : Licence) : Connection σ → Connection σ → Prop
  | used {c c'} (call : SessionCall) (hcall : L.use call)
      (hsession : c'.session = call.turn c.session)
      (hmode : c'.autocommitMode = c.autocommitMode) : Touch L c c'
  | spared {c c'} (hsession : c'.session = c.session)
      (hmode : c'.autocommitMode = c.autocommitMode) : Touch L c c'
  | modeSet {c c'} (hmode : L.mode c'.autocommitMode) (hsession : c'.session = c.session) :
      Touch L c c'

/-- After steps that are allowed the session is as allowed uses leave it, and the mode is as it was
or one that may be set. -/
theorem Touch.steps [Session σ] {L : Licence} {c c' : Connection σ}
    (h : ReflTransGen (Touch L) c c') :
    (∃ calls : List SessionCall, (∀ call ∈ calls, L.use call) ∧
      c'.session = calls.foldl SessionCall.turn c.session) ∧
    (c'.autocommitMode = c.autocommitMode ∨ L.mode c'.autocommitMode) := by
  induction h with
  | refl => exact ⟨⟨[], nofun, rfl⟩, .inl rfl⟩
  | tail _ hlast ih =>
      obtain ⟨⟨calls, hcalls, hsession⟩, hmode⟩ := ih
      cases hlast with
      | used call hcall hused hkept =>
          refine ⟨⟨calls ++ [call], ?_, ?_⟩, ?_⟩
          · exact List.forall_mem_append.2 ⟨hcalls, List.forall_mem_singleton.2 hcall⟩
          · rw [List.foldl_append, ← hsession]
            exact hused
          · rwa [hkept]
      | spared hused hkept =>
          rw [hused, hkept]
          exact ⟨⟨calls, hcalls, hsession⟩, hmode⟩
      | modeSet hset hused =>
          rw [hused]
          exact ⟨⟨calls, hcalls, hsession⟩, .inr hset⟩

namespace Op

variable [Session σ] {L : Licence}

/-- An operation that does what it may, however it ends. -/
abbrev Uses (L : Licence) (op : Op σ α) : Prop :=
  Walks (Touch L) (fun _ => True) op (fun _ _ => True) fun _ => True

/-- An operation that does what it may, and whose result, if there is one, is as `Q` says. -/
abbrev UsesFor (L : Licence) (op : Op σ α) (Q : α → Prop) : Prop :=
  Walks (Touch L) (fun _ => True) op (fun a _ => Q a) fun _ => True

namespace Uses

/-- What is left by an operation that does what it may. -/
theorem after {op : Op σ α} (h : Uses L op) (c : Connection σ) :
    (∃ calls : List SessionCall, (∀ call ∈ calls, L.use call) ∧
      (op.after c).session = calls.foldl SessionCall.turn c.session) ∧
    ((op.after c).autocommitMode = c.autocommitMode ∨ L.mode (op.after c).autocommitMode) :=
  Touch.steps (Walks.after h trivial).1

theorem of_after {op : Op σ α} (h : ∀ c, ReflTransGen (Touch L) c (op.after c)) : Uses L op := by
  intro c _
  have hsteps := h c
  unfold Op.after at hsteps
  cases hop : op c with
  | ok a c' =>
      rw [hop] at hsteps
      exact ⟨hsteps, trivial⟩
  | error e c' =>
      rw [hop] at hsteps
      exact ⟨hsteps, trivial⟩

theorem pure (a : α) : Uses L (Pure.pure a : Op σ α) := Walks.pure fun _ _ => trivial

theorem throwing (e : Error) : Uses L (throw e : Op σ α) := Walks.throwing fun _ _ => trivial

theorem ofExcept (result : Except Error α) :
    UsesFor L (Op.ofExcept result : Op σ α) fun a => result = .ok a :=
  Walks.ofExcept (fun _ _ ha _ => ha) fun _ _ => trivial

/-- A change that has nothing to do with the session. -/
theorem sparing {f : Connection σ → Connection σ} (hsession : ∀ c, (f c).session = c.session)
    (hmode : ∀ c, (f c).autocommitMode = c.autocommitMode) : Uses L (modify f) :=
  .modifying (fun c _ => .spared (hsession c) (hmode c)) fun _ _ => trivial

/-- What is known of a result helps for what comes after. -/
theorem bindFor {x : Op σ α} {f : α → Op σ β} {Q : α → Prop} (hx : UsesFor L x Q)
    (hf : ∀ a, Q a → Uses L (f a)) : Uses L (x >>= f) :=
  .bind hx fun a => fun c ha => hf a ha c trivial

theorem afterLook {f : Connection σ → α} {g : α → Op σ β} (h : ∀ a, Uses L (g a)) :
    Uses L ((fun c => .ok (f c) c : Op σ α) >>= g) :=
  Walks.afterLook fun a => (h a).strengthen fun _ _ => trivial

theorem afterGet {g : Connection σ → Op σ β} (h : ∀ d, Uses L (g d)) : Uses L (get >>= g) :=
  afterLook (f := id) h

end Uses

/-- Nothing more is known of a result. -/
theorem UsesFor.uses {op : Op σ α} {Q : α → Prop} (h : UsesFor L op Q) : Uses L op :=
  h.weaken (fun _ hc => hc) (fun _ _ _ => trivial) fun _ hc => hc

end Op

namespace Connection

open Op

variable [Session σ] {L : Licence}

/-! ## Checks and warnings -/

theorem uses_refuseIf (fault : Option InterfaceFault) : Uses L (refuseIf fault : Op σ Unit) := by
  cases fault with
  | none => exact Uses.pure ()
  | some fault => exact Uses.throwing _

theorem uses_checkUsable : Uses L (checkUsable : Op σ Unit) :=
  fun c => uses_refuseIf c.fault? c

theorem uses_checkOpen : Uses L (checkOpen : Op σ Unit) :=
  fun c => uses_refuseIf c.closedFault? c

theorem uses_warn (text : String) : Uses L (warn text : Op σ Unit) := by
  refine .bind (Uses.sparing (fun _ => rfl) fun _ => rfl) fun _ => Uses.afterGet fun d => ?_
  split
  · exact Uses.throwing _
  · exact Uses.sparing (fun _ => rfl) fun _ => rfl

theorem uses_warnAll (texts : List String) : Uses L (warnAll texts : Op σ Unit) := by
  induction texts with
  | nil => exact Uses.pure ()
  | cons text rest ih => exact .bind (uses_warn text) fun _ => ih

/-- What is announced successfully is what was bound. -/
theorem uses_announce (x : Reported α) :
    UsesFor L (announce x : Op σ α) fun a => x.result = .ok a :=
  .bind (uses_warnAll _) fun _ => Uses.ofExcept _

/-! ## Uses of the session -/

theorem uses_settle (d : Delivery α) : Uses L (settle d : Op σ α) := by
  refine Uses.of_after fun c => ?_
  obtain ⟨issued, hafter⟩ := after_settle d c
  rw [hafter]
  exact .single (.spared rfl rfl)

/-- A use of the session is one, whatever is delivered. -/
theorem uses_call {work : σ → Delivery α × σ} {call : SessionCall} (hcall : L.use call)
    (hwork : ∀ s, call.turn s = (work s).2) : Uses L (Connection.call work) := by
  refine .bind uses_checkUsable fun _ => ?_
  intro c _
  have hsettle := uses_settle (L := L) (work c.session).1
    (c.received (work c.session).2 (work c.session).1.messages) trivial
  have hstep : Touch L c (c.received (work c.session).2 (work c.session).1.messages) :=
    .used call hcall (hwork _).symm rfl
  exact Ended.after_steps (.single hstep) hsettle

theorem uses_beginStatement (owner : Option Nat) : Uses L (beginStatement owner : Op σ Unit) := by
  refine .bind uses_checkUsable fun _ => Uses.sparing (fun c => ?_) fun c => ?_
  · obtain ⟨cursors, hbegun⟩ := begun_eq c owner
    rw [hbegun]
  · obtain ⟨cursors, hbegun⟩ := begun_eq c owner
    rw [hbegun]

theorem uses_submitFor (owner : Option Nat) {r : Request} (hr : L.use r.use) :
    Uses L (submitFor owner r : Op σ Unit) :=
  .bind uses_checkUsable fun _ => .bind (Uses.sparing (fun _ => rfl) fun _ => rfl) fun _ =>
    uses_call hr (turn_use r)

/-! ## Statements of the connection -/

section reading

/-! Whoever submits a request also reads the response. -/

variable (hread : ∀ call : SessionCall, call.isRead = true → L.use call)
include hread

theorem uses_nextResult : Uses L (Connection.call (Session.nextResult (σ := σ))) :=
  uses_call (hread .nextResult rfl) fun _ => rfl

theorem uses_fetchRow : Uses L (Connection.call (Session.fetchRow (σ := σ))) :=
  uses_call (hread .fetchRow rfl) fun _ => rfl

theorem uses_drain : Uses L (drain : Op σ Unit) := by
  have hskipRow : Uses L (skipRow () : Op σ (ForInStep Unit)) := by
    refine .bind (uses_fetchRow hread) fun row => ?_
    cases row with
    | none => exact Uses.pure _
    | some values => exact Uses.pure _
  have hskipResult : Uses L (skipResult () : Op σ (ForInStep Unit)) := by
    refine .bind (uses_nextResult hread) fun columns => ?_
    match columns with
    | none => exact Uses.pure _
    | some [] => exact Uses.pure _
    | some (_ :: _) => exact .bind (.repeating (fun _ => hskipRow) ()) fun _ => Uses.pure _
  exact .repeating (fun _ => hskipResult) ()

theorem uses_execute {sql : String} (hsql : L.use (.batch sql)) :
    Uses L (execute sql : Op σ Unit) :=
  .bind (uses_beginStatement none) fun _ =>
    .bind (uses_submitFor none hsql) fun _ => uses_drain hread

/-- A statement that is only executed outside autocommit mode. -/
theorem uses_unlessAutocommit {sql : String} (hsql : L.use (.batch sql)) :
    Uses L (do
      unless (← get).autocommit do execute sql : Op σ Unit) := by
  refine Uses.afterGet fun d => ?_
  split
  · exact Uses.pure ()
  · exact uses_execute hread hsql

/-! ## Copying rows -/

theorem uses_tableColumns {table : String} (htable : L.use (.batch (columnsStatement table))) :
    Uses L (tableColumns table : Op σ (List Column)) :=
  .bind (uses_beginStatement none) fun _ => .bind (uses_submitFor none htable) fun _ =>
    .bind (uses_nextResult hread) fun _ => .bind (uses_drain hread) fun _ =>
      Uses.afterGet fun _ => (Uses.ofExcept _).uses

section copying

variable {b : BulkCopy} (hstatement : L.use (.batch b.statement))
  (hcopy : ∀ rows, L.use (.bulkCopy b.columns b.declarations rows))
include hstatement hcopy

theorem uses_sendBatch (batch : List (List Value)) : Uses L (sendBatch b batch : Op σ Int) :=
  .bind (uses_execute hread hstatement) fun _ => uses_call (hcopy batch) fun _ => rfl

theorem uses_sendRows (number : Nat) (batch : List (List Value)) (saved : Int)
    (rows : List Value) : Uses L (sendRows b number batch saved rows : Op σ Int) := by
  induction rows generalizing number batch saved with
  | nil =>
      unfold sendRows
      split
      · exact Uses.pure _
      · exact .bind (uses_sendBatch hread hstatement hcopy batch) fun _ => Uses.pure _
  | cons row rest ih =>
      unfold sendRows
      refine Uses.afterGet fun d => Uses.bindFor (uses_announce _) fun values _ => ?_
      show Uses L (if b.isFull (batch ++ [values]) then _ else _)
      split
      · exact .bind (uses_sendBatch hread hstatement hcopy _) fun count => ih _ _ _
      · exact ih _ _ _

end copying

/-- The columns of the table are asked for, and the statement before each batch declares all of
them. -/
theorem uses_bulkInsert {table : String} {tableLock : Bool}
    (htable : L.use (.batch (columnsStatement table)))
    (hinsert : ∀ columns declarations, columns.mapM Column.declaration = .ok declarations →
      L.use (.batch (insertStatement table columns declarations tableLock)) ∧
        ∀ rows, L.use (.bulkCopy columns declarations rows))
    (rows batchSize : Value) (encode : Bool) :
    Uses L (bulkInsert table rows batchSize tableLock encode : Op σ Int) := by
  refine .bind uses_checkUsable fun _ => Uses.afterGet fun d => ?_
  show Uses L (if d.bulkCopyEnabled then _ else _)
  by_cases henabled : d.bulkCopyEnabled = true
  · rw [if_pos henabled]
    refine .bind (Uses.ofExcept _).uses fun limit => ?_
    cases rows.items? with
    | none => exact Uses.throwing _
    | some items =>
        refine .bind (uses_tableColumns hread htable) fun columns => ?_
        refine Uses.bindFor (Uses.ofExcept _) fun declarations hdeclared => ?_
        obtain ⟨hstatement, hcopy⟩ := hinsert columns declarations hdeclared
        exact uses_sendRows (b := ⟨_, columns, declarations, encode, limit⟩) hread hstatement hcopy
          _ _ _ _
  · rw [if_neg henabled]
    exact .bind (Q := fun _ _ => False) (.throwing fun _ _ => trivial) fun _ => fun _ hc => hc.elim

/-! ## Transactions and settings -/

theorem uses_commit (hsql : L.use (.batch commitStatement)) : Uses L (commit : Op σ Unit) :=
  .bind uses_checkUsable fun _ => uses_unlessAutocommit hread hsql

theorem uses_rollback (hsql : L.use (.batch rollbackStatement)) : Uses L (rollback : Op σ Unit) :=
  .bind uses_checkUsable fun _ => uses_unlessAutocommit hread hsql

theorem uses_setAutocommit {value : Value}
    (hsql : ∀ current wanted, value = .bool wanted →
      L.use (.batch (switchStatement current wanted)))
    (hmode : ∀ wanted, value = .bool wanted → L.mode value) :
    Uses L (setAutocommit value : Op σ Unit) := by
  refine .bind uses_checkUsable fun _ => ?_
  cases value with
  | bool wanted =>
      refine Uses.afterGet fun d => ?_
      refine .bind (uses_execute hread (hsql d.autocommit wanted rfl)) fun _ => ?_
      exact .modifying (fun _ _ => .modeSet (hmode wanted rfl) rfl) fun _ _ => trivial
  | _ => exact Uses.throwing _

theorem uses_useDatabase {value : Value}
    (hsql : ∀ name, value = .text name → L.use (.batch (useStatement name))) :
    Uses L (useDatabase value : Op σ Unit) := by
  refine .bind uses_checkUsable fun _ => ?_
  cases value with
  | text name => exact uses_execute hread (hsql name rfl)
  | _ => exact Uses.throwing _

end reading

theorem uses_setTimeout {value : Value} (htimeout : ∀ n, value = .int n → L.use (.timeout n)) :
    Uses L (setTimeout value : Op σ Unit) := by
  refine .bind uses_checkUsable fun _ => ?_
  cases value with
  | int n =>
      show Uses L (if 0 ≤ n ∧ n ≤ maxTimeout then _ else _)
      split
      · exact .modifying (fun _ _ => .used _ (htimeout n rfl) rfl rfl) fun _ _ => trivial
      · exact Uses.throwing _
  | _ => exact Uses.throwing _

theorem uses_close (hclose : L.use .close) : Uses L (close : Op σ Unit) :=
  .bind uses_checkOpen fun _ => .modifying (fun _ _ => .used _ hclose rfl rfl) fun _ _ => trivial

theorem uses_leave (hread : ∀ call : SessionCall, call.isRead = true → L.use call) {failed : Bool}
    (hsql : failed = false → L.use (.batch commitStatement)) (hclose : L.use .close) :
    Uses L (leave failed : Op σ Unit) := by
  refine Uses.afterGet fun d => ?_
  split
  · split
    · exact uses_close hclose
    next hcommits =>
      have hfailed : failed = false := by
        cases failed with
        | false => rfl
        | true => simp at hcommits
      exact .bind (uses_commit hread (hsql hfailed)) fun _ => uses_close hclose
  · exact Uses.pure ()

/-! ## What a statement does -/

/-- A request that is submitted on a connection that can be used is a use of its session. -/
theorem after_submitFor {c : Connection σ} (husable : c.fault? = none) (owner : Option Nat)
    (r : Request) : ((submitFor owner r).after c).session = r.use.turn c.session := by
  have hsubmit : submitFor owner r c = call (ask r) (c.noted owner r) :=
    bind_of_ok _ (checkUsable_of_usable husable)
  obtain ⟨issued, hafter⟩ := after_call (ask r) (c := c.noted owner r) husable
  unfold Op.after at hafter ⊢
  rw [hsubmit, hafter]
  exact (turn_use r c.session).symm

/-- A connection that can be used submits the statement, and then only reads. -/
theorem after_execute {c : Connection σ} (husable : c.fault? = none) (sql : String) :
    ∃ calls : List SessionCall, (∀ call ∈ calls, call.isRead = true) ∧
      ((execute sql).after c).session =
        calls.foldl SessionCall.turn ((SessionCall.batch sql).turn c.session) := by
  obtain ⟨cursors, hbegun⟩ := begun_eq c none
  have hbegin : beginStatement none c = .ok () (c.begun none) :=
    bind_eq_ok.2 ⟨_, _, checkUsable_of_usable husable, rfl⟩
  have hexecute : execute sql c = (submitFor none { sql } >>= fun _ => drain) (c.begun none) :=
    bind_of_ok _ hbegin
  have hsubmitted := after_submitFor (c := c.begun none) (by rw [hbegun]; exact husable) none { sql }
  rw [show (c.begun none).session = c.session by rw [hbegun]] at hsubmitted
  have hafter : (execute sql).after c =
      (submitFor none { sql } >>= fun _ => drain).after (c.begun none) := by
    unfold Op.after
    rw [hexecute]
  rw [hafter, after_bind]
  unfold Op.after at hsubmitted
  cases hsubmit : submitFor none { sql } (c.begun none) with
  | error e d =>
      rw [hsubmit] at hsubmitted
      exact ⟨[], nofun, hsubmitted⟩
  | ok u d =>
      rw [hsubmit] at hsubmitted
      have hdrain := (uses_drain (σ := σ) (L := { use := fun call => call.isRead = true })
        fun _ h => h).after d
      obtain ⟨⟨calls, hcalls, hsession⟩, -⟩ := hdrain
      refine ⟨calls, hcalls, hsession.trans ?_⟩
      rw [← show d.session = (SessionCall.batch sql).turn c.session from hsubmitted]

end Connection

end TdsClient
