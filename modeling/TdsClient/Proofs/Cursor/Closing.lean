import TdsClient.Proofs.Silence

/-!
# Closed cursors

A cursor that was closed stays closed, whatever is done with it, with other
cursors or with their connection, and refuses all that needs a cursor that
can be used. It does so before it looks at the connection, so that a lost
session makes no difference.

There is one exception. When the connection is closed all its cursors start
over as unused, also those that were closed before. They are of no use then
either, but it is the connection that they complain about.

## Main results

* `Move.keeps_closed` — the one move that ends the closed state.
* `Moves.keep_closed` — so it is for any number of moves.
* `cursor_closed_for_good` — closed cursors in every run.
* `unused_once_connection_closed` — what becomes of any cursor when the connection is closed.
-/

namespace TdsClient

open Connection Op Cursor

variable {σ : Type}

namespace Connection

/-- Only cursors that exist were closed. -/
theorem has_of_closed {c : Connection σ} {k : Cursor} (hclosed : c.stateOf k = .closed) :
    c.Has k := by
  refine Nat.lt_of_not_le fun hk => ?_
  unfold stateOf Cursor.recordIn at hclosed
  rw [List.getElem?_eq_none hk] at hclosed
  cases hclosed

/-- A change of a cursor leaves a closed one closed, if it does so when it changes that one. -/
theorem closed_of_changed {c : Connection σ} {k : Cursor} (hclosed : c.stateOf k = .closed)
    (j : Cursor) {f : CursorRecord → CursorRecord}
    (hf : j = k → (f (k.recordIn c)).state = .closed) : (c.changed j f).stateOf k = .closed := by
  unfold stateOf changed
  rcases recordIn_modifyCursor_or c j.index k f with hsame | ⟨hindex, hchanged⟩
  · rw [hsame]
    exact hclosed
  · rw [hchanged]
    exact hf (eq_of_index hindex)

/-- What changes a cursor that was not closed does not change one that was. -/
theorem closed_of_changed_of_ne {c : Connection σ} {k : Cursor} (hclosed : c.stateOf k = .closed)
    {j : Cursor} (hj : c.stateOf j ≠ .closed) (f : CursorRecord → CursorRecord) :
    (c.changed j f).stateOf k = .closed := by
  refine closed_of_changed hclosed j fun hsame => absurd ?_ hj
  rw [hsame]
  exact hclosed

theorem not_closed_of_isIdle {c : Connection σ} {k : Cursor} (hk : c.IsIdle k) :
    c.stateOf k ≠ .closed := by
  rcases hk.2.2 with hstate | hstate
  · rw [hstate]
    nofun
  · rw [hstate]
    nofun

theorem not_closed_of_isReader {c : Connection σ} {k : Cursor} (hk : c.IsReader k) :
    c.stateOf k ≠ .closed := by
  intro hclosed
  have hreading := hk.2.2
  rw [hclosed] at hreading
  cases hreading

variable [Session σ]

/-- A closed cursor stays closed at every move but the one that closes the connection. -/
theorem Move.keeps_closed {c c' : Connection σ} (hmove : Move c c') {k : Cursor}
    (hclosed : c.stateOf k = .closed) :
    c'.stateOf k = .closed ∨ c.isOpen = true ∧ c'.isOpen = false := by
  cases hmove with
  | closed hopen => exact .inr ⟨hopen, rfl⟩
  | opened husable =>
      left
      rw [stateOf, recordIn_opened]
      exact hclosed
  | began owner husable howner =>
      left
      rw [stateOf_begun _ (has_of_closed hclosed), if_neg fun h => h.2.2 hclosed]
      exact hclosed
  -- whoever goes on with a statement was not closed
  | prepared j hj hactive => exact .inl (closed_of_changed_of_ne hclosed hj.2 _)
  | sent j reliable hj =>
      exact .inl (closed_of_changed_of_ne hclosed (not_closed_of_isIdle hj.1) _)
  | reached j columns hj =>
      exact .inl (closed_of_changed_of_ne hclosed (not_closed_of_isReader hj) _)
  | finished j count value hj =>
      exact .inl (closed_of_changed_of_ne hclosed (not_closed_of_isReader hj) _)
  | failed j hj => exact .inl (closed_of_changed_of_ne hclosed hj.2 _)
  -- and other changes leave the state as it is
  | counted j count hj => exact .inl (closed_of_changed hclosed j fun _ => hclosed)
  | rowRead j hj => exact .inl (closed_of_changed hclosed j fun _ => hclosed)
  | unnumbered j hj => exact .inl (closed_of_changed hclosed j fun _ => hclosed)
  | totalled j count reliable hj => exact .inl (closed_of_changed hclosed j fun _ => hclosed)
  | sized j n => exact .inl (closed_of_changed hclosed j fun _ => hclosed)
  | shut j hj => exact .inl (closed_of_changed hclosed j fun _ => rfl)
  | released j hj =>
      left
      unfold release
      split
      · exact hclosed
      · exact hclosed
  | _ => exact .inl hclosed

/-- Whether a connection is open only changes when it is closed. -/
theorem Move.stays_closed {c c' : Connection σ} (hmove : Move c c') (hclosed : c.isOpen = false) :
    c'.isOpen = false := by
  rcases hmove.same_or_closes_or_asks with hsame | hcloses | hasks
  · exact hsame.isOpen.trans hclosed
  · exact hcloses.isOpen
  · exact hasks.isOpen.trans hclosed

/-- A closed cursor stays closed unless the connection is closed meanwhile. -/
theorem Moves.keep_closed {c c' : Connection σ} (hmoves : Moves c c') {k : Cursor}
    (hclosed : c.stateOf k = .closed) :
    c'.stateOf k = .closed ∨ c.isOpen = true ∧ c'.isOpen = false := by
  induction hmoves with
  | refl => exact .inl hclosed
  | @tail d e hinit hlast ih =>
      rcases ih with hstill | ⟨hopen, hshut⟩
      · rcases hlast.keeps_closed hstill with hkept | ⟨hopen, hshut⟩
        · exact .inl hkept
        · refine .inr ⟨?_, hshut⟩
          -- a connection that was closed at the start would still be
          cases hwas : c.isOpen with
          | true => rfl
          | false =>
              have hnever : d.isOpen = false :=
                Moves.keep (fun _ _ hmove => hmove.stays_closed) hinit hwas
              rw [hnever] at hopen
              cases hopen
      · exact .inr ⟨hopen, hlast.stays_closed hshut⟩

end Connection

variable [Session σ]

/-- Closing a cursor leaves it closed, and the connection as open as it was. -/
theorem after_close {c : Connection σ} {k : Cursor} (hk : c.Has k) :
    ((Action.onCursor k .close).perform.after c).stateOf k = .closed ∧
      ((Action.onCursor k .close).perform.after c).isOpen = c.isOpen := by
  by_cases hclosed : c.stateOf k = .closed
  · have hnothing : k.close c = .ok () c := by
      refine bind_eq_ok.2 ⟨_, _, rfl, ?_⟩
      rw [if_pos (show (k.recordIn c).state = .closed from hclosed)]
      rfl
    have hperformed : (Action.onCursor k .close).perform c = .ok .nothing c :=
      bind_eq_ok.2 ⟨_, _, hnothing, rfl⟩
    rw [Op.after, hperformed]
    exact ⟨hclosed, rfl⟩
  · have hcloses : k.close c = .ok () ((c.changed k (·.reset .closed)).release k.index) := by
      refine bind_eq_ok.2 ⟨_, _, rfl, ?_⟩
      rw [if_neg (show ¬(k.recordIn c).state = .closed from hclosed)]
      rfl
    have hperformed : (Action.onCursor k .close).perform c =
        .ok .nothing ((c.changed k (·.reset .closed)).release k.index) :=
      bind_eq_ok.2 ⟨_, _, hcloses, rfl⟩
    have hstate : (c.changed k (·.reset .closed)).stateOf k = .closed := stateOf_changed hk _
    rw [Op.after, hperformed]
    show ((c.changed k (·.reset .closed)).release k.index).stateOf k = _ ∧
      ((c.changed k (·.reset .closed)).release k.index).isOpen = _
    unfold release
    split
    · exact ⟨hstate, rfl⟩
    · exact ⟨hstate, rfl⟩

/-- Whatever is done, with the cursor, with others and with their connection, after a cursor was
closed: it is closed, unless the connection was closed since; and all that needs a cursor that can
be used is refused and changes nothing. A closed cursor is what is complained about then, also if
the session is lost or the connection is closed, and otherwise the closed connection. -/
theorem cursor_closed_for_good {c c' : Connection σ} (hc : Reachable c) {k : Cursor} (hk : c.Has k)
    (hrun : Runs ((Action.onCursor k .close).perform.after c) c') :
    (c'.stateOf k = .closed ∨ c.isOpen = true ∧ c'.isOpen = false) ∧
    ∀ a : CursorAction, a.needsUsable = true →
      (Action.onCursor k a).perform c' =
        .error (.interface
          (if c'.stateOf k = .closed then .cursorClosed else .connectionClosed)) c' := by
  obtain ⟨hclosed, hopen⟩ := after_close hk
  have hmoves := ((hc.performed (.onCursor k .close) hk).runs hrun).2
  have hkept := hmoves.keep_closed hclosed
  rw [hopen] at hkept
  refine ⟨hkept, fun a ha => ?_⟩
  by_cases hstill : c'.stateOf k = .closed
  · rw [if_pos hstill]
    exact cursor_perform_of_check (check_of_closed hstill) ha
  · have hfault := fault?_of_closed (hkept.resolve_left hstill).2
    exact cursor_perform_of_fault hfault k ha

/-- A connection with two cursors to a server that does not answer in time. -/
def shared : Connection (Recorded ScriptedSession) := waiting.runAll [.openCursor, .openCursor]

theorem reachable_shared : Reachable shared :=
  have hopened : setUp false connecting = .ok () waiting := returns_iff.1 (by decide +kernel)
  ((Reachable.opened { ansiDefaults := .bool false } _ hopened).performed .openCursor
    trivial).performed .openCursor trivial

theorem has_shared : shared.Has ⟨0⟩ := show 0 < List.length _ by decide +kernel

/-- That connection after one cursor was closed and a statement of the other timed out. -/
def deserted : Connection (Recorded ScriptedSession) :=
  shared.runAll [.onCursor ⟨0⟩ .close, .onCursor ⟨1⟩ (.execute "WAITFOR DELAY '00:01'" .null)]

/-- The session is lost, and the closed cursor still says that it is closed. -/
theorem cursor_closed_for_good_deserted :
    deserted.isDead = true ∧ deserted.stateOf ⟨0⟩ = .closed ∧
      (Action.onCursor ⟨0⟩ .fetchOne).perform deserted =
        .error (.interface .cursorClosed) deserted := by
  have hrun : Runs ((Action.onCursor ⟨0⟩ .close).perform.after shared) deserted :=
    .single ⟨.onCursor ⟨1⟩ (.execute "WAITFOR DELAY '00:01'" .null),
      show 1 < List.length _ by decide +kernel, rfl⟩
  obtain ⟨hclosed, hrefuses⟩ := cursor_closed_for_good reachable_shared has_shared hrun
  have hopen : deserted.isOpen = true := by decide +kernel
  have hstate : deserted.stateOf ⟨0⟩ = .closed := by
    refine hclosed.resolve_right fun hshut => ?_
    rw [hopen] at hshut
    cases hshut.2
  refine ⟨by decide +kernel, hstate, ?_⟩
  have hrefused := hrefuses .fetchOne rfl
  rw [if_pos hstate] at hrefused
  exact hrefused

/-- Closing the connection makes any cursor unused, be it closed or not, and what the cursor
complains about then is the connection. -/
theorem unused_once_connection_closed {c : Connection σ} (hopen : c.isOpen = true) (k : Cursor) :
    (Action.close.perform.after c).stateOf k = .unused ∧
    ∀ a : CursorAction, a.needsUsable = true →
      (Action.onCursor k a).perform (Action.close.perform.after c) =
        .error (.interface .connectionClosed) (Action.close.perform.after c) := by
  have hperformed : Action.close.perform c = .ok .nothing c.closed :=
    bind_eq_ok.2 ⟨_, _, close_of_isOpen hopen, rfl⟩
  have hstate : c.closed.stateOf k = .unused := by
    rw [stateOf, recordIn_closed]
    rfl
  rw [Op.after, hperformed]
  refine ⟨hstate, fun a ha => ?_⟩
  have hrefused := cursor_perform_of_fault (fault?_of_closed (c := c.closed) rfl) k ha
  rw [refusal, hstate, if_neg (by simp)] at hrefused
  exact hrefused

/-- That connection after one cursor was closed and then the connection itself. -/
def shutDown : Connection (Recorded ScriptedSession) :=
  Action.close.perform.after ((Action.onCursor ⟨0⟩ .close).perform.after shared)

/-- The cursor that was closed is unused again, and does not say that it is closed. -/
theorem closed_cursor_unused_again :
    Reachable shared ∧ shared.Has ⟨0⟩ ∧
      Runs ((Action.onCursor ⟨0⟩ .close).perform.after shared) shutDown ∧
      shutDown.stateOf ⟨0⟩ = .unused ∧
      (Action.onCursor ⟨0⟩ .fetchOne).perform shutDown =
        .error (.interface .connectionClosed) shutDown := by
  have hopen : ((Action.onCursor ⟨0⟩ .close).perform.after shared).isOpen = true := by
    decide +kernel
  obtain ⟨hstate, hrefuses⟩ := unused_once_connection_closed hopen ⟨0⟩
  exact ⟨reachable_shared, has_shared, .single ⟨.close, trivial, rfl⟩, hstate,
    hrefuses .fetchOne rfl⟩

end TdsClient
