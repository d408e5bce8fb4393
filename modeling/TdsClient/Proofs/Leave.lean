import TdsClient.Proofs.Footprint
import TdsClient.Proofs.Silence
import TdsClient.Session.Script

/-!
# The end of a block

A block in which a connection is used ends by closing the connection. If
the body did not fail, the transaction in progress is committed before. The
commit is a statement like any other, and may fail; then its error is what
the block ends with, and the connection is not closed. This is the only way
to leave a block without closing the connection.

A connection that was closed, be it by its block or in the body, has closed
its session once and after everything else. It stays closed, and refuses
all that needs an open connection.

## Main definitions

* `Connection.ClosedOnce` — a connection that has closed its session.
* `Connection.CommitsAtEnd` — a connection that commits at the end of its block.

## Main results

* `closedOnce_of_runs` — a closed connection has closed its session once.
* `commits_iff_logged` — when a block commits.
* `leave_closes` — how a block ends, and what is left of the connection.
-/

namespace TdsClient

open Connection Op

variable {σ : Type} [Session σ]

/-! ## Closed sessions -/

namespace Connection

/-- The session was closed once, and after everything else. -/
structure ClosedOnce (c : Connection (Recorded σ)) : Prop where
  isOpen : c.isOpen = false
  uses : ∃ us, c.session.uses = us ++ [⟨.close, none⟩] ∧ ∀ u ∈ us, u.call ≠ .close

/-- After every move a connection that is closed has closed its session once. -/
theorem ClosedOnce.moved {c c' : Connection (Recorded σ)} (htold : ToldByRecord c)
    (hc : c.isOpen = false → ClosedOnce c) (h : Move c c') (hclosed : c'.isOpen = false) :
    ClosedOnce c' := by
  refine ⟨hclosed, ?_⟩
  rcases h.same_or_closes_or_asks with hsame | hcloses | hasks
  · rw [hsame.session]
    exact (hc (hsame.isOpen ▸ hclosed)).uses
  · refine ⟨c.session.uses, ?_, htold.unclosed hcloses.wasOpen⟩
    rw [hcloses.session]
    rfl
  · have hopen := isOpen_of_usable hasks.usable
    rw [← hasks.isOpen, hclosed] at hopen
    cases hopen

/-- However a connection was used, if it is closed it has closed its session once. -/
theorem closedOnce_of_runs {o : ConnectionOptions} {s : σ} {c₀ c : Connection (Recorded σ)}
    (hopened : setUp o.ansiDefaults.isTrue (o.connection ⟨s, []⟩) = .ok () c₀)
    (hrun : Runs c₀ c) (hclosed : c.isOpen = false) : ClosedOnce c := by
  have hkept : ToldByRecord c ∧ (c.isOpen = false → ClosedOnce c) := by
    refine (moves_of_runs hopened hrun).keep (P := fun d =>
      ToldByRecord d ∧ (d.isOpen = false → ClosedOnce d)) (fun d d' hmove hd => ?_)
      ⟨toldByRecord_connection o s, nofun⟩
    exact ⟨hd.1.moved hmove, ClosedOnce.moved hd.1 hd.2 hmove⟩
  exact hkept.2 hclosed

/-! ## Leaving -/

/-- A connection commits at the end of its block if the body did not fail and left it open and
alive, and it is not in autocommit mode. -/
def CommitsAtEnd (c : Connection σ) (failed : Bool) : Prop :=
  failed = false ∧ c.isOpen = true ∧ c.isDead = false ∧ c.autocommit = false

omit [Session σ] in
theorem CommitsAtEnd.fault? {c : Connection σ} {failed : Bool} (h : c.CommitsAtEnd failed) :
    c.fault? = none :=
  fault?_eq_none_iff.2 ⟨h.2.1, h.2.2.1⟩

/-- Outside autocommit mode a commit is a statement. -/
theorem commit_of_usable {c : Connection σ} (husable : c.fault? = none)
    (hoff : c.autocommit = false) : commit c = execute commitStatement c := by
  have hrest : (get >>= fun d : Connection σ =>
      unless d.autocommit do execute commitStatement : Op σ Unit) c =
      execute commitStatement c := by
    show (unless c.autocommit do execute commitStatement : Op σ Unit) c = _
    rw [hoff]
    rfl
  exact (bind_of_ok _ (checkUsable_of_usable husable)).trans hrest

/-- At the end of its block a connection commits and closes, or it only closes. -/
theorem leave_of_isOpen {c : Connection σ} (hopen : c.isOpen = true) (failed : Bool) :
    leave failed c =
      if failed || c.isDead || c.autocommit then close c
      else (commit >>= fun _ => close) c := by
  show (if c.isOpen then _ else _ : Op σ Unit) c = _
  rw [if_pos hopen]
  split
  · rfl
  · rfl

end Connection

/-! ## How a block ends -/

/-- The end of a block that has nothing to commit closes the connection. -/
theorem perform_leave_of_not_commits {c : Connection σ} {failed : Bool} (hopen : c.isOpen = true)
    (hcommits : ¬ c.CommitsAtEnd failed) :
    (Action.leave failed).perform c = .ok .nothing c.closed := by
  have hcloses : (failed || c.isDead || c.autocommit) = true := by
    unfold CommitsAtEnd at hcommits
    cases failed <;> cases hdead : c.isDead <;> cases hauto : c.autocommit <;> simp_all
  have hleave : leave failed c = .ok () c.closed := by
    rw [leave_of_isOpen hopen, if_pos hcloses]
    exact close_of_isOpen hopen
  exact bind_eq_ok.2 ⟨_, _, hleave, rfl⟩

theorem leave_of_commits {c : Connection σ} {failed : Bool} (h : c.CommitsAtEnd failed) :
    leave failed c = (commit >>= fun _ => close) c := by
  rw [leave_of_isOpen h.2.1, if_neg]
  simp [h.1, h.2.2.1, h.2.2.2]

/-- If the commit at the end of a block fails, this is what the block ends with. -/
theorem perform_leave_of_error {c c' : Connection σ} {failed : Bool} {e : Error}
    (hcommits : c.CommitsAtEnd failed) (hcommit : commit c = .error e c') :
    (Action.leave failed).perform c = .error e c' := by
  refine bind_of_error _ ?_
  rw [leave_of_commits hcommits]
  exact bind_of_error _ hcommit

/-- If the commit succeeds and leaves the connection open, the connection is closed. -/
theorem perform_leave_of_ok {c c' : Connection σ} {failed : Bool} (hcommits : c.CommitsAtEnd failed)
    (hcommit : commit c = .ok () c') (hopen : c'.isOpen = true) :
    (Action.leave failed).perform c = .ok .nothing c'.closed := by
  have hleave : leave failed c = .ok () c'.closed := by
    rw [leave_of_commits hcommits]
    exact (bind_of_ok _ hcommit).trans (close_of_isOpen hopen)
  exact bind_eq_ok.2 ⟨_, _, hleave, rfl⟩

section runs

variable {o : ConnectionOptions} {s : σ} {c₀ c : Connection (Recorded σ)}
  (hopened : setUp o.ansiDefaults.isTrue (o.connection ⟨s, []⟩) = .ok () c₀) (hrun : Runs c₀ c)
include hopened hrun

/-- What a commit outside autocommit mode adds to the record: the batch that commits, and what is
read after it. The connection is still open. -/
theorem uses_after_commit {failed : Bool} (hcommits : c.CommitsAtEnd failed) :
    (commit.after c).isOpen = true ∧
      ∃ u reads, (commit.after c).session.uses = c.session.uses ++ u :: reads ∧
        u.call = .batch commitStatement ∧ ∀ r ∈ reads, r.call.isRead = true := by
  have hsame : commit.after c = (execute commitStatement).after c := by
    unfold Op.after
    rw [commit_of_usable hcommits.fault? hcommits.2.2.2]
  obtain ⟨u, reads, huses, hcall, hreads⟩ :=
    log_execute logs_uses hcommits.fault? commitStatement
  rw [← hsame] at huses
  refine ⟨?_, u, reads, huses, hcall, hreads⟩
  have hafter : Runs c₀ (commit.after c) :=
    hrun.tail ⟨.commit, trivial, (after_silently _ c).symm⟩
  cases hclosed : (commit.after c).isOpen with
  | true => rfl
  | false =>
      -- the session would be closed by now, but there is no such use
      obtain ⟨us, hus, _⟩ := (closedOnce_of_runs hopened hafter hclosed).uses
      have hclose : (⟨.close, none⟩ : SessionUse) ∈ c.session.uses ++ u :: reads := by
        rw [← huses, hus]
        exact List.mem_append_right _ (List.mem_singleton.2 rfl)
      rcases List.mem_append.1 hclose with hbefore | hsince
      · exact absurd rfl ((toldByRecord_of_runs hopened hrun).unclosed hcommits.2.1 _ hbefore)
      · rcases List.mem_cons.1 hsince with rfl | hread
        · cases hcall
        · exact absurd (hreads _ hread) nofun

/-- What the end of a block adds to the record tells whether it commits. -/
theorem commits_iff_logged (failed : Bool) :
    (∃ u ∈ (Action.leave failed).perform.logged Recorded.uses c,
      u.call = .batch commitStatement) ↔ c.CommitsAtEnd failed := by
  constructor
  · rintro ⟨u, hu, hcall⟩
    by_contra hcommits
    cases hopen : c.isOpen with
    | false =>
        have hnothing : (Action.leave failed).perform.logged Recorded.uses c = [] :=
          logged_eq (by rw [Op.after, leave_of_closed hopen, List.append_nil])
        rw [hnothing] at hu
        cases hu
    | true =>
        have hclose : (Action.leave failed).perform.logged Recorded.uses c = [⟨.close, none⟩] :=
          logged_eq (by rw [Op.after, perform_leave_of_not_commits hopen hcommits]; rfl)
        rw [hclose, List.mem_singleton] at hu
        rw [hu] at hcall
        cases hcall
  · intro hcommits
    obtain ⟨hopen, u, reads, huses, hcall, _⟩ := uses_after_commit hopened hrun hcommits
    cases hcommit : commit c with
    | error e c' =>
        rw [Op.after, hcommit] at huses
        have hlogged : (Action.leave failed).perform.logged Recorded.uses c = u :: reads :=
          logged_eq (by rw [Op.after, perform_leave_of_error hcommits hcommit]; exact huses)
        exact ⟨u, hlogged ▸ List.mem_cons_self .., hcall⟩
    | ok x c' =>
        rw [Op.after, hcommit] at huses hopen
        have hlogged : (Action.leave failed).perform.logged Recorded.uses c =
            u :: (reads ++ [⟨.close, none⟩]) := by
          refine logged_eq ?_
          rw [Op.after, perform_leave_of_ok hcommits hcommit hopen]
          show c'.session.uses ++ [⟨.close, none⟩] = _
          rw [huses, List.append_assoc]
          rfl
        exact ⟨u, hlogged ▸ List.mem_cons_self .., hcall⟩

/-- A connection is opened over a session without a record and used in any way, and then its block
is left. A commit is submitted exactly if the body did not fail and left the connection open and
alive, and it is not in autocommit mode. If that commit fails, its error is what the block ends
with, and the connection is open and its session was not closed. Otherwise the block ends without
an error and the connection is closed: its session was closed once and after everything else, and
from then on the connection stays closed, uses its session no more, and refuses all that needs an
open connection. -/
theorem leave_closes (failed : Bool) :
    ((∃ u ∈ (Action.leave failed).perform.logged Recorded.uses c,
      u.call = .batch commitStatement) ↔
        failed = false ∧ c.isOpen = true ∧ c.isDead = false ∧ c.autocommit = false) ∧
    (∀ e c', c.CommitsAtEnd failed → commit c = .error e c' →
      (Action.leave failed).perform c = .error e c' ∧ c'.isOpen = true ∧
        ∀ u ∈ c'.session.uses, u.call ≠ .close) ∧
    ((∀ e c', c.CommitsAtEnd failed → commit c ≠ .error e c') →
      ∃ c', (Action.leave failed).perform c = .ok .nothing c' ∧ ClosedOnce c' ∧
        ∀ c'', Runs c' c'' → c''.isOpen = false ∧ c''.session = c'.session ∧
          ∀ a : Action, a.needsOpen = true →
            a.perform c'' = .error (.interface (a.refusal c'' .connectionClosed)) c'') := by
  have hafter : Runs c₀ ((Action.leave failed).perform.after c) :=
    hrun.tail ⟨.leave failed, trivial, rfl⟩
  refine ⟨commits_iff_logged hopened hrun failed, fun e c' hcommits hcommit => ?_, fun hsafe => ?_⟩
  · have hleave := perform_leave_of_error hcommits hcommit
    have hopen := (uses_after_commit hopened hrun hcommits).1
    rw [Op.after, hcommit] at hopen
    rw [Op.after, hleave] at hafter
    exact ⟨hleave, hopen, (toldByRecord_of_runs hopened hafter).unclosed hopen⟩
  · have hends : ∃ c', (Action.leave failed).perform c = .ok .nothing c' ∧ c'.isOpen = false := by
      cases hopen : c.isOpen with
      | false => exact ⟨c, leave_of_closed hopen failed, hopen⟩
      | true =>
          by_cases hcommits : c.CommitsAtEnd failed
          · have hstill := (uses_after_commit hopened hrun hcommits).1
            cases hcommit : commit c with
            | error e c' => exact absurd hcommit (hsafe e c' hcommits)
            | ok x c' =>
                rw [Op.after, hcommit] at hstill
                exact ⟨_, perform_leave_of_ok hcommits hcommit hstill, rfl⟩
          · exact ⟨_, perform_leave_of_not_commits hopen hcommits, rfl⟩
    obtain ⟨c', hleave, hclosed⟩ := hends
    rw [Op.after, hleave] at hafter
    refine ⟨c', hleave, closedOnce_of_runs hopened hafter hclosed, fun c'' hlater => ?_⟩
    have hmoves := (((Reachable.opened o _ hopened).runs hafter).1.runs hlater).2
    have hfault : c'.fault? ≠ none := by
      rw [fault?_of_closed hclosed]
      exact Option.some_ne_none _
    rcases hmoves.quiet hfault with hsame | hcloses
    · have hstill : c''.isOpen = false := hsame.isOpen.trans hclosed
      exact ⟨hstill, hsame.session, fun a ha => perform_of_closed hstill ha⟩
    · exact absurd hcloses.wasOpen (by simp [hclosed])

end runs

/-- A server that rolls a transaction back when it is asked to commit it. -/
def deadlocking : ScriptedSession where
  responses :=
    [(commitStatement, {
        playback := {
          messages := [⟨1205, 1, 13, "Transaction was deadlocked", "", "", 0⟩]
          failure := some (.rejected "deadlock" .database) } })]

/-- A connection to that server, with transactions. -/
def deadlocked : Connection (Recorded ScriptedSession) :=
  (setUp false).after (ConnectionOptions.connection { ansiDefaults := .bool false } ⟨deadlocking, []⟩)

theorem deadlocked_opened :
    setUp false (ConnectionOptions.connection { ansiDefaults := .bool false } ⟨deadlocking, []⟩) =
      .ok () deadlocked :=
  returns_iff.1 (by decide +kernel)

/-- If its body fails the block closes the connection, and commits nothing. If it does not, the
commit is submitted. -/
theorem leave_closes_deadlocked :
    (∃ c', (Action.leave true).perform deadlocked = .ok .nothing c' ∧ c'.ClosedOnce) ∧
    (¬ ∃ u ∈ (Action.leave true).perform.logged Recorded.uses deadlocked,
      u.call = .batch commitStatement) ∧
    ∃ u ∈ (Action.leave false).perform.logged Recorded.uses deadlocked,
      u.call = .batch commitStatement := by
  obtain ⟨hcommits, _, hcloses⟩ :=
    leave_closes (o := { ansiDefaults := .bool false }) deadlocked_opened .refl true
  obtain ⟨c', hleave, hclosed, _⟩ := hcloses fun _ _ hfailed => nomatch hfailed.1
  have hnothing : ¬ ∃ u ∈ (Action.leave true).perform.logged Recorded.uses deadlocked,
      u.call = .batch commitStatement := fun hlogged => nomatch (hcommits.1 hlogged).1
  obtain ⟨hsubmits, _, _⟩ :=
    leave_closes (o := { ansiDefaults := .bool false }) deadlocked_opened .refl false
  have hready : deadlocked.CommitsAtEnd false :=
    ⟨rfl, by decide +kernel, by decide +kernel, by decide +kernel⟩
  exact ⟨⟨c', hleave, hclosed⟩, hnothing, hsubmits.2 hready⟩

/-- The failed commit leaves the connection open, its session was not closed, and it can still be
used. -/
theorem failed_commit_keeps_open :
    Reachable deadlocked ∧
      ∃ e c', (Action.leave false).perform deadlocked = .error e c' ∧ c'.isOpen = true ∧
        (∀ u ∈ c'.session.uses, u.call ≠ .close) ∧
        Action.rollback.perform.returns c' = true := by
  refine ⟨.opened { ansiDefaults := .bool false } _ deadlocked_opened, ?_⟩
  have hfails : (match (Action.leave false).perform deadlocked with
      | .ok _ _ => false
      | .error _ c' => c'.isOpen && Action.rollback.perform.returns c') = true := by decide +kernel
  cases hleave : (Action.leave false).perform deadlocked with
  | ok answer c' =>
      rw [hleave] at hfails
      cases hfails
  | error e c' =>
      rw [hleave] at hfails
      obtain ⟨hopen, hreturns⟩ := Bool.and_eq_true_iff.1 hfails
      have hrun : Runs deadlocked c' :=
        .single ⟨.leave false, trivial, by rw [Op.after, hleave]⟩
      have htold : ToldByRecord c' :=
        toldByRecord_of_runs (o := { ansiDefaults := .bool false }) deadlocked_opened hrun
      exact ⟨e, c', rfl, hopen, htold.unclosed hopen, hreturns⟩

end TdsClient
