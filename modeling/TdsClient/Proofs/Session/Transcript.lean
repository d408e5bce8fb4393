import TdsClient.Proofs.Footprint

/-!
# Sessions with a transcript

A transcript of a session lists its uses with what the server said to each:
the messages that arrived and the failure, if there was one. The server
accepts what it is asked if it neither fails nor reports an error.

A statement of the connection itself is submitted, and then its response is
read. If the server accepts all of this the statement returns, unless a
warning is raised as an error; and whenever the server does not, another
error is raised.

## Main definitions

* `Exchange` — a use of a session, and what the server said.
* `Transcribed` — a session and its transcript.

## Main results

* `ends_settle` — what is raised tells whether a delivery was accepted.
* `exchanges_execute` — what is raised tells whether a statement was accepted.
-/

namespace TdsClient

/-- A use of a session, the messages that arrived, and why it failed if it did. -/
structure Exchange where
  call : SessionCall
  messages : List Message
  failure : Option SessionFailure

/-- Whether the server accepted what it was asked: there is no failure, and all messages only
inform. -/
def Exchange.isAccepted (x : Exchange) : Bool := x.failure.isNone && x.messages.all (·.isWarning)

/-- The exchange in which something was delivered. -/
def Delivery.exchange {α : Type} (d : Delivery α) (call : SessionCall) : Exchange :=
  ⟨call, d.messages, d.failure?⟩

/-- A session with a transcript of its uses, the earliest first. -/
structure Transcribed (σ : Type) where
  session : σ
  exchanges : List Exchange := []

variable {σ α : Type}

namespace Transcribed

/-- The exchange of a use that gives something. -/
def exchange (call : SessionCall) (work : σ → Delivery α × σ) (t : Transcribed σ) :
    Delivery α × Transcribed σ :=
  let (delivery, session) := work t.session
  (delivery, ⟨session, t.exchanges ++ [delivery.exchange call]⟩)

/-- The exchange of a use that only changes the session. -/
def change (call : SessionCall) (work : σ → σ) (t : Transcribed σ) : Transcribed σ :=
  ⟨work t.session, t.exchanges ++ [⟨call, [], none⟩]⟩

instance [Session σ] : Session (Transcribed σ) where
  version t := Session.version t.session
  spid t := Session.spid t.session
  database t := Session.database t.session
  rowCount t := Session.rowCount t.session
  returnStatus t := Session.returnStatus t.session
  outputs t := Session.outputs t.session
  setTimeout seconds := change (.timeout seconds) (Session.setTimeout seconds)
  submitBatch sql := exchange (.batch sql) (Session.submitBatch sql)
  submitCall procedure parameters :=
    exchange (.call procedure parameters) (Session.submitCall procedure parameters)
  nextResult := exchange .nextResult Session.nextResult
  fetchRow := exchange .fetchRow Session.fetchRow
  bulkCopy columns declarations rows :=
    exchange (.bulkCopy columns declarations rows) (Session.bulkCopy columns declarations rows)
  close := change .close Session.close
  remaining t := Session.remaining t.session
  remaining_nextResult t := Session.remaining_nextResult t.session
  remaining_fetchRow t := Session.remaining_fetchRow t.session
  remaining_fetchRow_le t := Session.remaining_fetchRow_le t.session

/-- A transcript is a log of the session. -/
theorem logs_exchanges [Session σ] : Logs (exchanges (σ := σ)) Exchange.call where
  turn t call := by
    cases call with
    | timeout seconds => exact ⟨_, rfl, rfl⟩
    | batch sql => exact ⟨_, rfl, rfl⟩
    | call procedure parameters => exact ⟨_, rfl, rfl⟩
    | nextResult => exact ⟨_, rfl, rfl⟩
    | fetchRow => exact ⟨_, rfl, rfl⟩
    | bulkCopy columns declarations rows => exact ⟨_, rfl, rfl⟩
    | close => exact ⟨_, rfl, rfl⟩

end Transcribed

namespace Connection

open Op

/-! ## What is raised -/

/-- A warning that is raised as an error. -/
def IsRaisedWarning (e : Error) : Prop := ∃ w, e = .warning w

/-- What an error tells of the server: if it is a raised warning, the server accepted what it was
asked and the connection raises warnings; otherwise the server did not accept it. -/
structure Tells (escalates : Bool) (accepted : Prop) (e : Error) : Prop where
  accepted : accepted ↔ IsRaisedWarning e
  escalates : IsRaisedWarning e → escalates = true

/-- Of several warnings one is raised only if the connection raises them. -/
theorem ends_issueAll (ws : List Warning) (c : Connection σ) :
    Ends (fun _ _ => True) (fun e _ => IsRaisedWarning e ∧ c.escalates = true)
      (issueAll ws c) := by
  cases hcalm : c.escalates with
  | false =>
      rw [(issueAll_eq_ok_iff ws c _ ()).2 ⟨.inl hcalm, rfl⟩]
      trivial
  | true =>
      cases ws with
      | nil => trivial
      | cons w rest =>
          rw [issueAll_of_escalates hcalm]
          exact ⟨⟨w, rfl⟩, rfl⟩

/-- What is delivered is accepted if the outcome is a result, and otherwise the error tells. -/
theorem ends_settle (call : SessionCall) (d : Delivery α) (c : Connection σ) :
    Ends (fun _ _ => (d.exchange call).isAccepted = true)
      (fun e _ => Tells c.escalates ((d.exchange call).isAccepted = true) e) (settle d c) := by
  have hother : ∀ e : Error, ¬ IsRaisedWarning e → Tells c.escalates (false = true) e :=
    fun e he => ⟨⟨nofun, fun h => absurd h he⟩, fun h => absurd h he⟩
  unfold settle Exchange.isAccepted Delivery.exchange Delivery.failure?
  rcases d.result with failure | a
  · cases failure with
    | rejected text errorClass =>
        refine hother _ ?_
        rintro ⟨w, hw⟩
        unfold rejection at hw
        split at hw <;> cases hw
    | lost text timedOut => exact hother _ nofun
    | badData text => exact hother _ nofun
    | unexpected kind => exact hother _ nofun
  · show Ends (fun _ _ => d.messages.all (·.isWarning) = true)
      (fun e _ => Tells c.escalates (d.messages.all (·.isWarning) = true) e)
      ((report d.messages >>= fun _ => pure a) c)
    have hmild := Message.worst?_eq_none_iff d.messages
    rw [← List.all_eq_true] at hmild
    unfold report
    cases hworst : Message.worst? d.messages with
    | some m =>
        have hsevere : d.messages.all (·.isWarning) = false := by
          rw [← Bool.not_eq_true, ← hmild, hworst]
          nofun
        rw [hsevere]
        exact hother _ nofun
    | none =>
        rw [hmild.1 hworst]
        have hissued := ends_issueAll (warningsOf d.messages) c
        cases hended : issueAll (warningsOf d.messages) c with
        | ok u c' => exact bind_of_ok _ hended ▸ rfl
        | error e c' =>
            rw [hended] at hissued
            rw [bind_of_error _ hended]
            exact ⟨⟨fun _ => hissued.1, fun _ => rfl⟩, fun _ => hissued.2⟩

/-! ## Statements of the connection -/

/-- A connection that can be used and came from another one: since then the server accepted all
that it was asked. -/
structure AcceptedSince (start c : Connection (Transcribed σ)) : Prop where
  usable : c.fault? = none
  escalates : c.escalates = start.escalates
  exchanges : ∃ xs, c.session.exchanges = start.session.exchanges ++ xs ∧
    ∀ x ∈ xs, x.isAccepted = true

/-- An error that tells what the server accepted since the connection was another one. -/
def TellsSince (start : Connection (Transcribed σ)) (e : Error) (c : Connection (Transcribed σ)) :
    Prop :=
  ∃ xs, c.session.exchanges = start.session.exchanges ++ xs ∧
    Tells start.escalates (∀ x ∈ xs, x.isAccepted = true) e

/-- An operation after which it is known what the server accepted meanwhile. -/
abbrev Transcribes (start : Connection (Transcribed σ)) (op : Op (Transcribed σ) α) : Prop :=
  Meets (AcceptedSince start) op (fun _ => AcceptedSince start) (TellsSince start)

variable {start : Connection (Transcribed σ)}

theorem isLost_of_isAccepted {d : Delivery α} {call : SessionCall}
    (h : (d.exchange call).isAccepted = true) : d.isLost = false := by
  have hsucceeded : d.failure? = none := Option.isNone_iff_eq_none.1 (Bool.and_eq_true_iff.1 h).1
  unfold Delivery.failure? at hsucceeded
  unfold Delivery.isLost
  cases hresult : d.result with
  | ok a => rfl
  | error failure =>
      rw [hresult] at hsucceeded
      cases hsucceeded

theorem isAccepted_snoc {xs : List Exchange} (hxs : ∀ x ∈ xs, x.isAccepted = true) (x : Exchange) :
    (∀ y ∈ xs ++ [x], y.isAccepted = true) ↔ x.isAccepted = true := by
  rw [List.forall_mem_append, List.forall_mem_singleton]
  exact and_iff_right hxs

theorem transcribes_call (call : SessionCall) (work : σ → Delivery α × σ) :
    Transcribes start (Connection.call (Transcribed.exchange call work)) := by
  intro c hc
  obtain ⟨xs, hxs, haccepted⟩ := hc.exchanges
  rw [call_of_usable _ hc.usable]
  generalize hreceived : c.received (Transcribed.exchange call work c.session).2
    (Transcribed.exchange call work c.session).1.messages = c₁
  generalize hd : (Transcribed.exchange call work c.session).1 = d at hreceived ⊢
  -- Settling tells whether the exchange was accepted, and leaves the session as it was received.
  have hsettled := ends_settle call d c₁
  obtain ⟨issued, hafter⟩ := after_settle d c₁
  have hadded : c₁.session.exchanges = start.session.exchanges ++ (xs ++ [d.exchange call]) := by
    rw [← List.append_assoc, ← hxs, ← hreceived, ← hd]
    rfl
  have hescalates : c₁.escalates = start.escalates := by
    rw [← hc.escalates, ← hreceived]
    rfl
  have husable : c₁.fault? = none := by
    rw [← hc.usable, ← hreceived]
    rfl
  unfold Op.after at hafter
  cases hended : settle d c₁ with
  | ok a c' =>
      rw [hended] at hsettled hafter
      obtain rfl : c' = _ := hafter
      refine ⟨?_, hescalates, _, hadded, (isAccepted_snoc haccepted _).2 hsettled⟩
      rw [isLost_of_isAccepted hsettled, Bool.or_false]
      exact husable
  | error e c' =>
      rw [hended] at hsettled hafter
      obtain rfl : c' = _ := hafter
      refine ⟨_, hadded, ?_⟩
      rw [isAccepted_snoc haccepted, ← hescalates]
      exact hsettled

variable [Session σ]

theorem transcribes_drain : Transcribes start drain := by
  have hskipRow : Transcribes start (skipRow ()) := by
    refine .bind (Q := fun _ => AcceptedSince start) (transcribes_call _ _) fun row => ?_
    cases row with
    | none => exact .pure fun _ hc => hc
    | some values => exact .pure fun _ hc => hc
  have hskipResult : Transcribes start (skipResult ()) := by
    refine .bind (Q := fun _ => AcceptedSince start) (transcribes_call _ _) fun columns => ?_
    match columns with
    | none => exact .pure fun _ hc => hc
    | some [] => exact .pure fun _ hc => hc
    | some (_ :: _) =>
        exact .bind (Q := fun _ => AcceptedSince start) (.repeating (fun _ => hskipRow) ())
          fun _ => .pure fun _ hc => hc
  exact .repeating (fun _ => hskipResult) ()

omit [Session σ] in
theorem transcribes_beginStatement : Transcribes start (beginStatement none) := by
  intro c hc
  obtain ⟨cursors, hbegun⟩ := begun_eq c none
  have hbegin : beginStatement none c = .ok () (c.begun none) :=
    bind_of_ok _ (checkUsable_of_usable hc.usable)
  rw [hbegin, hbegun]
  exact ⟨hc.usable, hc.escalates, hc.exchanges⟩

theorem transcribes_submitFor (sql : String) : Transcribes start (submitFor none { sql }) := by
  intro c hc
  have hsubmit : submitFor none { sql } c = call (ask { sql }) (c.noted none { sql }) :=
    bind_of_ok _ (checkUsable_of_usable hc.usable)
  rw [hsubmit]
  exact transcribes_call (.batch sql) (Session.submitBatch sql) _
    ⟨hc.usable, hc.escalates, hc.exchanges⟩

/-- What is raised by a statement of the connection tells whether it was accepted. -/
theorem transcribes_execute (sql : String) : Transcribes start (execute sql) :=
  .bind (Q := fun _ => AcceptedSince start) transcribes_beginStatement fun _ =>
    .bind (Q := fun _ => AcceptedSince start) (transcribes_submitFor sql) fun _ => transcribes_drain

/-- The exchanges of a statement: it is submitted, and then its response is read. If it returns all
of them were accepted, and if it raises an error the error tells whether they were. -/
theorem exchanges_execute {c : Connection (Transcribed σ)} (husable : c.fault? = none)
    (sql : String) :
    ∃ x reads, ((execute sql).after c).session.exchanges = c.session.exchanges ++ x :: reads ∧
      x.call = .batch sql ∧ (∀ r ∈ reads, r.call.isRead = true) ∧
      Ends (fun _ c' => c'.fault? = none ∧ ∀ y ∈ x :: reads, y.isAccepted = true)
        (fun e _ => Tells c.escalates (∀ y ∈ x :: reads, y.isAccepted = true) e)
        (execute sql c) := by
  obtain ⟨x, reads, hlog, hcall, hreads⟩ := log_execute Transcribed.logs_exchanges husable sql
  refine ⟨x, reads, hlog, hcall, hreads, ?_⟩
  have hstart : AcceptedSince c c := ⟨husable, rfl, [], by simp, by simp⟩
  have hended := transcribes_execute sql c hstart
  unfold Op.after at hlog
  cases hexecute : execute sql c with
  | ok u c' =>
      rw [hexecute] at hlog hended
      obtain ⟨xs, hxs, haccepted⟩ := hended.exchanges
      rw [List.append_cancel_left (hlog.symm.trans hxs)]
      exact ⟨hended.usable, haccepted⟩
  | error e c' =>
      rw [hexecute] at hlog hended
      obtain ⟨xs, hxs, htells⟩ := hended
      rw [List.append_cancel_left (hlog.symm.trans hxs)]
      exact htells

end Connection

end TdsClient
