import TdsClient.Proofs.Run
import TdsClient.Session.Recorded
import TdsClient.Session.Script

/-!
# Lost and closed connections stay silent

Once its session is lost a connection is dead. It refuses everything that
would use the session, for good, and all that the session is still asked is
to close, once. A closed connection does not use its session at all: it
refuses what would need it, and the rest is the same whatever the session.

What a session is asked, and what it fails at, is in its record, in order.
So that a connection is dead exactly if a use lost the session is a
statement about the record, and so is that nothing is asked after that, not
even in the middle of an action.

## Main definitions

* `Action.needsUsable`, `Action.needsOpen` — the actions that are refused.
* `Connection.Same`, `Closes`, `Asks` — what a move does with the session.
* `Connection.Quiet` — all that becomes of a session is that it is closed.
* `SessionUse.MayFollow` — which use of a session may come after which.
* `Connection.ToldByRecord` — what the record tells about a connection.

## Main results

* `perform_of_fault`, `perform_of_closed` — what is refused.
* `perform_withSession` — a closed connection does without its session.
* `Moves.quiet` — a connection that cannot be used is quiet.
* `ToldByRecord.moved` — every move keeps what the record tells.
* `silent_once_lost` — all of this, in every run.
-/

namespace TdsClient

/-! ## Refused actions -/

/-- The steps on a cursor that need a connection that can be used. -/
def CursorAction.needsUsable : CursorAction → Bool
  | .setArraySize _ | .close | .read .arraySize => false
  | _ => true

/-- The steps that need a connection that can be used: all but those that only look at the
connection, set what it keeps for itself, or close it. -/
def Action.needsUsable : Action → Bool
  | .setEscalation _ | .close | .leave _ | .read _ => false
  | .onCursor _ a => a.needsUsable
  | _ => true

/-- The steps that need a connection that was not closed. -/
def Action.needsOpen : Action → Bool
  | .close => true
  | .read p => p.needsOpen
  | a => a.needsUsable

open Connection Op Cursor

variable {σ α : Type}

/-- Why a cursor refuses a step on a connection with a fault. -/
def Cursor.refusal (k : Cursor) (c : Connection σ) (fault : InterfaceFault) : InterfaceFault :=
  if c.stateOf k = .closed then .cursorClosed else fault

/-- Why a step is refused on a connection with a fault. -/
def Action.refusal (a : Action) (c : Connection σ) (fault : InterfaceFault) : InterfaceFault :=
  match a with
  | .onCursor k _ => k.refusal c fault
  | _ => fault

section refused

variable {c : Connection σ} {fault : InterfaceFault}

theorem checkUsable_of_fault (hfault : c.fault? = some fault) :
    checkUsable c = .error (.interface fault) c := by
  unfold checkUsable refuseIf
  rw [hfault]
  rfl

theorem fault?_of_closed (hclosed : c.isOpen = false) : c.fault? = some .connectionClosed := by
  unfold fault?
  rw [hclosed]
  rfl

theorem checkOpen_of_closed (hclosed : c.isOpen = false) :
    checkOpen c = .error (.interface .connectionClosed) c := by
  unfold checkOpen closedFault? refuseIf
  rw [hclosed]
  rfl

/-- A closed cursor is refused first, whatever its connection. -/
theorem check_of_closed {k : Cursor} (hclosed : c.stateOf k = .closed) :
    k.check c = .error (.interface .cursorClosed) c := by
  show (if (k.recordIn c).state = .closed then _ else _ : Op σ Unit) c = _
  rw [if_pos (show (k.recordIn c).state = .closed from hclosed)]
  rfl

theorem check_of_fault (hfault : c.fault? = some fault) (k : Cursor) :
    k.check c = .error (.interface (k.refusal c fault)) c := by
  unfold refusal
  by_cases hclosed : c.stateOf k = .closed
  · rw [if_pos hclosed]
    exact check_of_closed hclosed
  · rw [if_neg hclosed]
    show (if (k.recordIn c).state = .closed then _ else _ : Op σ Unit) c = _
    rw [if_neg (show ¬(k.recordIn c).state = .closed from hclosed)]
    exact checkUsable_of_fault hfault

variable [Session σ]

/-- What the check of a cursor refuses, its operations refuse. -/
theorem cursor_perform_of_check {k : Cursor} {e : Error} (hcheck : k.check c = .error e c)
    {a : CursorAction} (ha : a.needsUsable = true) : a.perform k c = .error e c := by
  -- a statement begins with the check, and a fetch looks for results with it
  have hbegin : k.begin c = .error e c := bind_of_error _ hcheck
  have hresults : k.checkResults c = .error e c := bind_of_error _ hcheck
  cases a with
  | execute sql parameters => exact bind_of_error _ (bind_of_error _ hbegin)
  | executeMany sql items => exact bind_of_error _ (bind_of_error _ hbegin)
  | callProcedure procedure arguments => exact bind_of_error _ (bind_of_error _ hbegin)
  | fetchOne => exact bind_of_error _ (bind_of_error _ hresults)
  | fetchMany size => exact bind_of_error _ (bind_of_error _ hresults)
  | fetchAll => exact bind_of_error _ (bind_of_error _ hresults)
  | nextSet => exact bind_of_error _ (bind_of_error _ hcheck)
  | iterate limit => exact bind_of_error _ (bind_of_error _ hresults)
  | setSizes => exact bind_of_error _ hcheck
  | setArraySize value => cases ha
  | close => cases ha
  | read property =>
      cases property with
      | arraySize => cases ha
      | _ => exact bind_of_error _ hcheck

theorem cursor_perform_of_fault (hfault : c.fault? = some fault) (k : Cursor) {a : CursorAction}
    (ha : a.needsUsable = true) :
    a.perform k c = .error (.interface (k.refusal c fault)) c :=
  cursor_perform_of_check (check_of_fault hfault k) ha

/-- A connection that cannot be used refuses all that needs one that can, and is left as it is. -/
theorem perform_of_fault (hfault : c.fault? = some fault) {a : Action}
    (ha : a.needsUsable = true) : a.perform c = .error (.interface (a.refusal c fault)) c := by
  have husable := checkUsable_of_fault hfault
  cases a with
  | openCursor => exact bind_of_error _ (bind_of_error _ husable)
  | commit => exact bind_of_error _ (bind_of_error _ husable)
  | rollback => exact bind_of_error _ (bind_of_error _ husable)
  | setAutocommit value => exact bind_of_error _ (bind_of_error _ husable)
  | setTimeout value => exact bind_of_error _ (bind_of_error _ husable)
  | useDatabase value => exact bind_of_error _ (bind_of_error _ husable)
  | bulkInsert table rows batchSize tableLock encode =>
      exact bind_of_error _ (bind_of_error _ husable)
  | onCursor k a => exact cursor_perform_of_fault hfault k ha
  | setEscalation value => cases ha
  | close => cases ha
  | leave failed => cases ha
  | read property => cases ha

/-- A closed connection refuses all that needs one that is open. -/
theorem perform_of_closed (hclosed : c.isOpen = false) {a : Action} (ha : a.needsOpen = true) :
    a.perform c = .error (.interface (a.refusal c .connectionClosed)) c := by
  have hfault := fault?_of_closed hclosed
  have hopen := checkOpen_of_closed hclosed
  cases a with
  | close => exact bind_of_error _ (bind_of_error _ hopen)
  | read property =>
      show property.read c = _
      unfold ConnectionProperty.read
      rw [if_pos (show property.needsOpen = true from ha)]
      exact bind_of_error _ hopen
  | _ => exact perform_of_fault hfault ha

end refused

/-! ## Closed connections -/

namespace Connection

/-- The connection with another session in place of its own. -/
def withSession (c : Connection σ) (s : σ) : Connection σ := { c with session := s }

/-- What an operation ended with, with another session in place of the one there. -/
def endedWith (s : σ) :
    EStateM.Result Error (Connection σ) α → EStateM.Result Error (Connection σ) α
  | .ok a c => .ok a (c.withSession s)
  | .error e c => .error e (c.withSession s)

end Connection

/-- Giving up being the active cursor has nothing to do with the session. -/
theorem release_withSession (c : Connection σ) (i : Nat) (s : σ) :
    (c.withSession s).release i = (c.release i).withSession s := by
  unfold release
  by_cases hactive : c.active = some i
  · rw [if_pos (show (c.withSession s).active = some i from hactive), if_pos hactive]
    rfl
  · rw [if_neg (show ¬(c.withSession s).active = some i from hactive), if_neg hactive]

/-- A cursor is closed whatever the session. -/
theorem close_withSession (k : Cursor) (c : Connection σ) (s : σ) :
    k.close (c.withSession s) = endedWith s (k.close c) := by
  show (if (k.recordIn c).state = .closed then _ else _ : Op σ Unit) (c.withSession s) =
    endedWith s ((if (k.recordIn c).state = .closed then _ else _ : Op σ Unit) c)
  by_cases hclosed : (k.recordIn c).state = .closed
  · rw [if_pos hclosed]
    rfl
  · rw [if_neg hclosed]
    exact congrArg (EStateM.Result.ok ())
      (release_withSession (c.changed k (·.reset .closed)) k.index s)

variable [Session σ]

/-- Nothing is left to be done at the end of a block once the connection was closed. -/
theorem leave_of_closed {c : Connection σ} (hclosed : c.isOpen = false) (failed : Bool) :
    (Action.leave failed).perform c = .ok .nothing c := by
  have hleave : leave failed c = .ok () c := by
    refine bind_eq_ok.2 ⟨_, _, rfl, ?_⟩
    rw [if_neg (by simp [hclosed])]
    rfl
  exact bind_eq_ok.2 ⟨_, _, hleave, rfl⟩

/-- What is done with a closed connection, and what it gives, is the same whatever the session. -/
theorem perform_withSession {c : Connection σ} (hclosed : c.isOpen = false) (a : Action) (s : σ) :
    a.perform (c.withSession s) = endedWith s (a.perform c) := by
  have hclosed' : (c.withSession s).isOpen = false := hclosed
  by_cases ha : a.needsOpen = true
  · rw [perform_of_closed hclosed ha, perform_of_closed hclosed' ha]
    cases a <;> rfl
  -- what is left does not look at the session of a closed connection
  · cases a with
    | setEscalation value => rfl
    | leave failed =>
        rw [leave_of_closed hclosed, leave_of_closed hclosed']
        rfl
    | read property =>
        cases property with
        | literal =>
            show EStateM.Result.ok (Answer.value (.text (c.withSession s).literal)) _ =
              EStateM.Result.ok (Answer.value (.text c.literal)) _
            unfold literal
            rw [hclosed, hclosed']
            rfl
        | messages => rfl
        | style => rfl
        | escalates => rfl
        | _ => exact absurd rfl ha
    | onCursor k a =>
        cases a with
        | setArraySize value => cases value <;> rfl
        | close =>
            show EStateM.bind k.close _ (c.withSession s) = endedWith s (EStateM.bind k.close _ c)
            unfold EStateM.bind
            rw [close_withSession]
            cases k.close c <;> rfl
        | read property =>
            cases property with
            | arraySize => rfl
            | _ => exact absurd rfl ha
        | _ => exact absurd rfl ha
    | _ => exact absurd rfl ha

/-! ## What becomes of the session -/

namespace Connection

/-- Whatever a session is used for, other than to be closed: the session before, whether it is lost
by that, and the session after. -/
inductive SessionStep : σ → Bool → σ → Prop
  | request (r : Request) (s : σ) : SessionStep s (ask r s).1.isLost (ask r s).2
  | result (s : σ) : SessionStep s (Session.nextResult s).1.isLost (Session.nextResult s).2
  | row (s : σ) : SessionStep s (Session.fetchRow s).1.isLost (Session.fetchRow s).2
  | copy (columns : List Column) (declarations : List String) (rows : List (List Value)) (s : σ) :
      SessionStep s (Session.bulkCopy columns declarations rows s).1.isLost
        (Session.bulkCopy columns declarations rows s).2
  | timeout (seconds : Int) (s : σ) : SessionStep s false (Session.setTimeout seconds s)

/-- Nothing becomes of the session. -/
structure Same (c c' : Connection σ) : Prop where
  isOpen : c'.isOpen = c.isOpen
  isDead : c'.isDead = c.isDead
  session : c'.session = c.session

/-- The session is closed. -/
structure Closes (c c' : Connection σ) : Prop where
  wasOpen : c.isOpen = true
  isOpen : c'.isOpen = false
  isDead : c'.isDead = c.isDead
  session : c'.session = Session.close c.session

/-- The session is used by a connection that can be, which is dead if that loses the session. -/
structure Asks (c c' : Connection σ) : Prop where
  usable : c.fault? = none
  isOpen : c'.isOpen = c.isOpen
  use : ∃ lost, SessionStep c.session lost c'.session ∧ c'.isDead = (c.isDead || lost)

/-- A move leaves the session alone, closes it, or uses it on a connection that can be used. -/
theorem Move.same_or_closes_or_asks {c c' : Connection σ} (h : Move c c') :
    Same c c' ∨ Closes c c' ∨ Asks c c' := by
  cases h with
  | began owner husable howner =>
      obtain ⟨cursors, hbegun⟩ := begun_eq c (owner.map (·.index))
      rw [hbegun]
      exact .inl ⟨rfl, rfl, rfl⟩
  | submitted owner r husable howner =>
      exact .inr (.inr ⟨husable, rfl, _, .request r c.session, rfl⟩)
  | advanced reader husable hreader =>
      exact .inr (.inr ⟨husable, rfl, _, .result c.session, rfl⟩)
  | fetched reader husable hreader =>
      exact .inr (.inr ⟨husable, rfl, _, .row c.session, rfl⟩)
  | copied columns declarations rows husable howner =>
      exact .inr (.inr ⟨husable, rfl, _, .copy columns declarations rows c.session, rfl⟩)
  | timeoutSet n husable =>
      exact .inr (.inr ⟨husable, rfl, _, .timeout n c.session, (Bool.or_false _).symm⟩)
  | closed hopen => exact .inr (.inl ⟨hopen, rfl, rfl, rfl⟩)
  | released k hk =>
      unfold release
      split
      · exact .inl ⟨rfl, rfl, rfl⟩
      · exact .inl ⟨rfl, rfl, rfl⟩
  | _ => exact .inl ⟨rfl, rfl, rfl⟩

/-- All that becomes of the session is that it may be closed. -/
def Quiet (c c' : Connection σ) : Prop := Same c c' ∨ Closes c c'

theorem Quiet.isDead {c c' : Connection σ} (h : Quiet c c') : c'.isDead = c.isDead :=
  h.elim (·.isDead) (·.isDead)

/-- A session that was closed is not closed once more. -/
theorem Quiet.trans {c d e : Connection σ} (h : Quiet c d) (h' : Quiet d e) : Quiet c e := by
  rcases h with hsame | hcloses
  · rcases h' with hsame' | hcloses'
    · exact .inl ⟨hsame'.isOpen.trans hsame.isOpen, hsame'.isDead.trans hsame.isDead,
        hsame'.session.trans hsame.session⟩
    · refine .inr ⟨hsame.isOpen.symm.trans hcloses'.wasOpen, hcloses'.isOpen,
        hcloses'.isDead.trans hsame.isDead, ?_⟩
      rw [hcloses'.session, hsame.session]
  · rcases h' with hsame' | hcloses'
    · exact .inr ⟨hcloses.wasOpen, hsame'.isOpen.trans hcloses.isOpen,
        hsame'.isDead.trans hcloses.isDead, hsame'.session.trans hcloses.session⟩
    · exact absurd hcloses'.wasOpen (by simp [hcloses.isOpen])

/-- Nothing makes a connection with a fault usable again. -/
theorem Quiet.fault? {c c' : Connection σ} (h : Quiet c c') (hfault : c.fault? ≠ none) :
    c'.fault? ≠ none := by
  intro husable
  obtain ⟨hopen, halive⟩ := fault?_eq_none_iff.1 husable
  rcases h with hsame | hcloses
  · exact hfault (fault?_eq_none_iff.2
      ⟨hsame.isOpen.symm.trans hopen, hsame.isDead.symm.trans halive⟩)
  · exact absurd hopen (by simp [hcloses.isOpen])

/-- A connection that cannot be used is quiet, whatever is done with it. -/
theorem Moves.quiet {c c' : Connection σ} (hfault : c.fault? ≠ none) (h : Moves c c') :
    Quiet c c' := by
  induction h with
  | refl => exact .inl ⟨rfl, rfl, rfl⟩
  | tail _ hlast ih =>
      refine ih.trans ?_
      rcases hlast.same_or_closes_or_asks with hsame | hcloses | hasks
      · exact .inl hsame
      · exact .inr hcloses
      · exact absurd hasks.usable (ih.fault? hfault)

end Connection

/-! ## What the record tells -/

/-- A use of a session that may come after another one: none after it was closed, and after it was
lost only to close it. -/
def SessionUse.MayFollow (v u : SessionUse) : Prop :=
  u.call ≠ .close ∧ (u.isLost = true → v.call = .close)

namespace Connection

/-- What the record of its session tells about a connection: that it is dead if a use lost the
session, and only then; that the session was not closed if it is open; and that every use might
follow all before it. -/
structure ToldByRecord (c : Connection (Recorded σ)) : Prop where
  loss : c.isDead = true ↔ ∃ u ∈ c.session.uses, u.isLost = true
  unclosed : c.isOpen = true → ∀ u ∈ c.session.uses, u.call ≠ .close
  order : c.session.uses.Pairwise fun u v => v.MayFollow u

/-- A use is recorded, and with it whether it lost the session. -/
theorem SessionStep.recorded {s s' : Recorded σ} {lost : Bool} (h : SessionStep s lost s') :
    ∃ u : SessionUse, s'.uses = s.uses ++ [u] ∧ u.call ≠ .close ∧ u.isLost = lost := by
  have hexchange : ∀ {α : Type} (call : SessionCall) (work : σ → Delivery α × σ),
      call ≠ .close → ∃ u : SessionUse, (Recorded.exchange call work s).2.uses = s.uses ++ [u] ∧
        u.call ≠ .close ∧ u.isLost = (Recorded.exchange call work s).1.isLost := by
    intro α call work hcall
    refine ⟨⟨call, (work s.session).1.failure?⟩, rfl, hcall, ?_⟩
    show SessionUse.isLost ⟨call, (work s.session).1.failure?⟩ = (work s.session).1.isLost
    unfold SessionUse.isLost Delivery.failure? Delivery.isLost
    rcases (work s.session).1 with ⟨messages, failure | a⟩
    · cases failure <;> rfl
    · rfl
  cases h with
  | request r =>
      unfold ask
      split
      · exact hexchange _ _ nofun
      · exact hexchange _ _ nofun
  | result => exact hexchange _ _ nofun
  | row => exact hexchange _ _ nofun
  | copy columns declarations rows => exact hexchange _ _ nofun
  | timeout seconds => exact ⟨_, rfl, nofun, rfl⟩

/-- What a use that is recorded adds to what the record tells. -/
theorem exists_isLost_append (us : List SessionUse) (u : SessionUse) :
    (∃ v ∈ us ++ [u], v.isLost = true) ↔ (∃ v ∈ us, v.isLost = true) ∨ u.isLost = true := by
  simp [or_and_right, exists_or]

theorem pairwise_append_singleton {us : List SessionUse} {u : SessionUse}
    (h : us.Pairwise fun v w => w.MayFollow v) (hu : ∀ v ∈ us, u.MayFollow v) :
    (us ++ [u]).Pairwise fun v w => w.MayFollow v := by
  refine List.pairwise_append.2 ⟨h, List.pairwise_singleton _ _, fun v hv w hw => ?_⟩
  rw [List.mem_singleton.1 hw]
  exact hu v hv

/-- After every move a connection is as its record tells. -/
theorem ToldByRecord.moved {c c' : Connection (Recorded σ)} (hc : ToldByRecord c)
    (h : Move c c') : ToldByRecord c' := by
  rcases h.same_or_closes_or_asks with hsame | hcloses | hasks
  · constructor
    · rw [hsame.isDead, hsame.session]
      exact hc.loss
    · rw [hsame.isOpen, hsame.session]
      exact hc.unclosed
    · rw [hsame.session]
      exact hc.order
  · have huses : c'.session.uses = c.session.uses ++ [⟨.close, none⟩] := by
      rw [hcloses.session]
      rfl
    refine ⟨?_, fun hopen => absurd hopen (by simp [hcloses.isOpen]), ?_⟩
    · rw [hcloses.isDead, huses, exists_isLost_append]
      exact hc.loss.trans ⟨.inl, fun h => h.resolve_right nofun⟩
    · rw [huses]
      exact pairwise_append_singleton hc.order fun v hv =>
        ⟨hc.unclosed hcloses.wasOpen v hv, fun _ => rfl⟩
  · obtain ⟨lost, hstep, hdead⟩ := hasks.use
    obtain ⟨u, huses, hcall, hlost⟩ := hstep.recorded
    obtain ⟨hopen, halive⟩ := fault?_eq_none_iff.1 hasks.usable
    have hunclosed := hc.unclosed hopen
    refine ⟨?_, fun _ => ?_, ?_⟩
    · rw [hdead, huses, exists_isLost_append, hlost, ← hc.loss, Bool.or_eq_true]
    · rw [huses, List.forall_mem_append]
      exact ⟨hunclosed, List.forall_mem_singleton.2 hcall⟩
    · rw [huses]
      refine pairwise_append_singleton hc.order fun v hv => ⟨hunclosed v hv, fun hvlost => ?_⟩
      -- the connection could be used, so no use before lost the session
      exact absurd (hc.loss.2 ⟨v, hv, hvlost⟩) (by simp [halive])

end Connection

/-! ## Leaving the block -/

/-- An open connection closes. -/
theorem Connection.close_of_isOpen {c : Connection σ} (hopen : c.isOpen = true) :
    Connection.close c = .ok () c.closed := by
  have hcheck : checkOpen c = .ok () c := by
    unfold checkOpen closedFault? refuseIf
    rw [hopen]
    rfl
  exact bind_eq_ok.2 ⟨_, _, hcheck, rfl⟩

/-- At the end of its block a dead connection is closed, and nothing else. -/
theorem leave_of_dead {c : Connection σ} (hopen : c.isOpen = true) (hdead : c.isDead = true)
    (failed : Bool) : (Action.leave failed).perform c = .ok .nothing c.closed := by
  have hleave : leave failed c = .ok () c.closed := by
    refine bind_eq_ok.2 ⟨_, _, rfl, ?_⟩
    rw [if_pos hopen, if_pos (by simp [hdead])]
    exact close_of_isOpen hopen
  exact bind_eq_ok.2 ⟨_, _, hleave, rfl⟩

/-! ## Every run -/

/-- A new connection has nothing in its record. -/
theorem toldByRecord_connection (o : ConnectionOptions) (s : σ) :
    ToldByRecord (o.connection (⟨s, []⟩ : Recorded σ)) := by
  refine ⟨⟨nofun, ?_⟩, fun _ u hu => absurd hu List.not_mem_nil, .nil⟩
  rintro ⟨u, hu, _⟩
  exact absurd hu List.not_mem_nil

/-- What is opened and used in any way is made of moves. -/
theorem moves_of_runs {o : ConnectionOptions} {s : σ} {c₀ c : Connection (Recorded σ)}
    (hopened : setUp o.ansiDefaults.isTrue (o.connection ⟨s, []⟩) = .ok () c₀)
    (hrun : Runs c₀ c) : Moves (o.connection ⟨s, []⟩) c :=
  (moves_setUp hopened).1.trans ((Reachable.opened o _ hopened).runs hrun).2

/-- What is opened and used in any way is as its record tells. -/
theorem toldByRecord_of_runs {o : ConnectionOptions} {s : σ} {c₀ c : Connection (Recorded σ)}
    (hopened : setUp o.ansiDefaults.isTrue (o.connection ⟨s, []⟩) = .ok () c₀)
    (hrun : Runs c₀ c) : ToldByRecord c :=
  (moves_of_runs hopened hrun).keep (fun _ _ hmove hc => hc.moved hmove)
    (toldByRecord_connection o s)

/-- A connection is opened over a session without a record, and used in any way. It is dead exactly
if a use lost the session, and no use of the session, be it in the middle of an action, comes after
one that lost it or closed it, other than to close it once it was lost. If the connection is dead
it stays so, and the session is left alone but for being closed once; all that needs a connection
that can be used is refused; and the end of its block closes it and does nothing else. Once it was
closed, it stays so and the session is left alone; all that needs an open connection is refused; and
the rest does the same with any other session. -/
theorem silent_once_lost {o : ConnectionOptions} {s : σ} {c₀ c : Connection (Recorded σ)}
    (hopened : setUp o.ansiDefaults.isTrue (o.connection ⟨s, []⟩) = .ok () c₀)
    (hrun : Runs c₀ c) :
    (c.isDead = true ↔ ∃ u ∈ c.session.uses, u.isLost = true) ∧
    (c.session.uses.Pairwise fun u v =>
      u.call ≠ .close ∧ (u.isLost = true → v.call = .close)) ∧
    (c.isDead = true →
      (∀ c', Runs c c' → c'.isDead = true ∧
        (c'.session = c.session ∨
          c.isOpen = true ∧ c'.isOpen = false ∧
            c'.session =
              ⟨Session.close c.session.session, c.session.uses ++ [⟨.close, none⟩]⟩)) ∧
      (∀ a : Action, a.needsUsable = true →
        ∃ fault, a.perform c = .error (.interface fault) c) ∧
      (c.isOpen = true → ∀ failed,
        (Action.leave failed).perform c = .ok .nothing c.closed)) ∧
    (c.isOpen = false →
      (∀ c', Runs c c' → c'.isOpen = false ∧ c'.session = c.session) ∧
      (∀ a : Action, a.needsOpen = true →
        ∃ fault, a.perform c = .error (.interface fault) c) ∧
      ∀ (a : Action) (other : Recorded σ),
        a.perform (c.withSession other) = endedWith other (a.perform c)) := by
  have hreachable := ((Reachable.opened o _ hopened).runs hrun).1
  have hquiet : c.fault? ≠ none → ∀ c', Runs c c' → Quiet c c' := fun hfault c' hafter =>
    Moves.quiet hfault (hreachable.runs hafter).2
  have htold := toldByRecord_of_runs hopened hrun
  refine ⟨htold.loss, htold.order, fun hdead => ?_, fun hclosed => ?_⟩
  · have hfault : c.fault? ≠ none := by
      intro husable
      rw [(fault?_eq_none_iff.1 husable).2] at hdead
      cases hdead
    refine ⟨fun c' hafter => ?_, fun a ha => ?_, fun hopen => leave_of_dead hopen hdead⟩
    · rcases hquiet hfault c' hafter with hsame | hcloses
      · exact ⟨hsame.isDead.trans hdead, .inl hsame.session⟩
      · exact ⟨hcloses.isDead.trans hdead,
          .inr ⟨hcloses.wasOpen, hcloses.isOpen, hcloses.session⟩⟩
    · obtain ⟨fault, hsome⟩ := Option.ne_none_iff_exists'.1 hfault
      exact ⟨_, perform_of_fault hsome ha⟩
  · refine ⟨fun c' hafter => ?_, fun a ha => ⟨_, perform_of_closed hclosed ha⟩,
      fun a other => perform_withSession hclosed a other⟩
    have hfault : c.fault? ≠ none := by
      rw [fault?_of_closed hclosed]
      nofun
    rcases hquiet hfault c' hafter with hsame | hcloses
    · exact ⟨hsame.isOpen.trans hclosed, hsame.session⟩
    · exact absurd hcloses.wasOpen (by simp [hclosed])

/-- A server that does not answer a statement in time. -/
def unresponsive : ScriptedSession where
  responses :=
    [("WAITFOR DELAY '00:01'", {
        playback := { failure := some (.lost "request timed out" true) } })]

/-- A new connection to that server. -/
def connecting : Connection (Recorded ScriptedSession) :=
  ConnectionOptions.connection { ansiDefaults := .bool false } ⟨unresponsive, []⟩

/-- That connection after it was set up, with transactions. -/
def waiting : Connection (Recorded ScriptedSession) := (setUp false).after connecting

/-- That connection after a statement timed out. -/
def timedOut : Connection (Recorded ScriptedSession) :=
  waiting.runAll [.openCursor, .onCursor ⟨0⟩ (.execute "WAITFOR DELAY '00:01'" .null)]

/-- The connection is dead, and the end of its block commits nothing. -/
theorem silent_once_lost_timedOut :
    timedOut.isDead = true ∧ (∃ u ∈ timedOut.session.uses, u.isLost = true) ∧
      (Action.leave false).perform timedOut = .ok .nothing timedOut.closed ∧
      ∃ fault, Action.commit.perform timedOut = .error (.interface fault) timedOut := by
  have hsetUp : setUp false connecting = .ok () waiting := by
    have hsucceeds : (match setUp false connecting with
      | .ok _ _ => true
      | .error _ _ => false) = true := by decide +kernel
    unfold waiting Op.after
    split at hsucceeds
    next hended => rw [hended]
    · cases hsucceeds
  have hrun : Runs waiting timedOut :=
    .tail (.single ⟨.openCursor, trivial, rfl⟩)
      ⟨.onCursor ⟨0⟩ (.execute "WAITFOR DELAY '00:01'" .null),
        show 0 < List.length _ by decide +kernel, rfl⟩
  have hdead : timedOut.isDead = true := by decide +kernel
  obtain ⟨hlost, _, hsilent, _⟩ :=
    silent_once_lost (o := { ansiDefaults := .bool false }) (s := unresponsive) hsetUp hrun
  obtain ⟨_, hrefuses, hleave⟩ := hsilent hdead
  exact ⟨hdead, hlost.1 hdead, hleave (by decide +kernel) false, hrefuses .commit rfl⟩

end TdsClient
