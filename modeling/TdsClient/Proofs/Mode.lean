import Mathlib.Data.List.TakeWhile
import TdsClient.Proofs.Session.Transcript
import TdsClient.Proofs.Silence
import TdsClient.Session.Script

/-!
# The mode of a connection and of its server

Outside autocommit mode the server starts transactions by itself. It is
switched by batches that the connection composes, when it is set up and
when the mode is assigned; the last one that was accepted counts. The
connection notes the mode for itself, but only after the batch returned. If
a warning of the server is raised as an error, the server has accepted the
batch and the connection has not noted it. Until the server accepts another
assignment, the connection then takes itself to be in a mode in which it
is not.

## Main definitions

* `Exchange.mode?`, `acceptedModes` — the batches that switch a server, and those it accepted.
* `Connection.serverStarts` — whether the server starts transactions after a run.
* `Connection.LeftBehind` — a run that leaves the connection in another mode than its server.

## Main results

* `stepModes` — what a step does to the mode, and to the server.
* `mode_agrees` — when a connection and its server agree.
-/

namespace TdsClient

open Connection Op

/-! ## Batches that switch the server -/

/-- Whether a server starts transactions after a batch that switches it. -/
def Connection.startsTransactions? (sql : String) : Option Bool :=
  [true, false].find? fun on =>
    sql ∈ [implicitTransactions on, switchStatement true (!on), switchStatement false (!on)]

theorem startsTransactions?_implicitTransactions (on : Bool) :
    startsTransactions? (implicitTransactions on) = some on := by
  cases on <;> decide +kernel

theorem startsTransactions?_switchStatement (current wanted : Bool) :
    startsTransactions? (switchStatement current wanted) = some !wanted := by
  cases current <;> cases wanted <;> decide +kernel

/-- A batch that begins in another way does not switch the server. -/
theorem startsTransactions?_eq_none {sql : String}
    (h : sql.toList.take 3 ≠ "SET".toList ∧ sql.toList.take 3 ≠ "IF ".toList) :
    startsTransactions? sql = none := by
  refine List.find?_eq_none.2 fun on _ hon => ?_
  have hbegins : ∀ text ∈ [implicitTransactions on, switchStatement true (!on),
      switchStatement false (!on)], text.toList.take 3 = "SET".toList ∨
        text.toList.take 3 = "IF ".toList := by
    cases on <;> decide +kernel
  rcases hbegins sql (of_decide_eq_true hon) with hset | hif
  · exact h.1 hset
  · exact h.2 hif

/-- The batches that a step composes do not switch the server, unless it assigns the mode. -/
theorem Action.Composes.startsTransactions? {a : Action} {sql : String} (h : a.Composes sql)
    (hother : ∀ wanted, a ≠ .setAutocommit (.bool wanted)) :
    startsTransactions? sql = none := by
  have hbegins : ∀ start rest : String, sql = start ++ rest → 3 ≤ start.toList.length →
      sql.toList.take 3 = start.toList.take 3 := by
    rintro start rest rfl hlong
    rw [String.toList_append, List.take_append_of_le_length hlong]
  cases h with
  | commit => decide +kernel
  | leave => decide +kernel
  | rollback => decide +kernel
  | switch current wanted => exact absurd rfl (hother wanted)
  | use name =>
      refine startsTransactions?_eq_none ?_
      rw [hbegins "USE " _ rfl (by decide)]
      decide
  | columns table rows batchSize tableLock encode =>
      refine startsTransactions?_eq_none ?_
      rw [hbegins "SELECT TOP 0 * FROM " _ rfl (by decide)]
      decide
  | insert table rows batchSize tableLock encode hdeclared =>
      refine startsTransactions?_eq_none ?_
      rw [hbegins "INSERT BULK " _ (by unfold insertStatement; simp only [String.append_assoc]; rfl)
        (by decide)]
      decide

/-- Whether a server starts transactions after a use that switches it. -/
def Exchange.mode? (x : Exchange) : Option Bool :=
  match x.call with
  | .batch sql => startsTransactions? sql
  | _ => none

/-- Whether a server started transactions after each batch that switched it. Such a batch counts if
it was accepted, and so was all that was read of its response. -/
def acceptedModes : List Exchange → List Bool
  | [] => []
  | x :: rest =>
    match x.mode? with
    | some starts =>
      if (x :: rest.takeWhile (·.call.isRead)).all (·.isAccepted) then starts :: acceptedModes rest
      else acceptedModes rest
    | none => acceptedModes rest

theorem mode?_of_isRead {x : Exchange} (h : x.call.isRead = true) : x.mode? = none := by
  unfold Exchange.mode?
  split
  next hbatch =>
    rw [hbatch] at h
    cases h
  · rfl

/-- What does not switch the server does not count. -/
theorem acceptedModes_append {xs : List Exchange} (h : ∀ x ∈ xs, x.mode? = none)
    (ys : List Exchange) : acceptedModes (xs ++ ys) = acceptedModes ys := by
  induction xs with
  | nil => rfl
  | cons x rest ih =>
      obtain ⟨hx, hrest⟩ := List.forall_mem_cons.1 h
      rw [List.cons_append, acceptedModes, hx]
      exact ih hrest

theorem acceptedModes_eq_nil {xs : List Exchange} (h : ∀ x ∈ xs, x.mode? = none) :
    acceptedModes xs = [] := by
  rw [← List.append_nil xs, acceptedModes_append h]
  rfl

/-- A batch that switches the server counts if it and all that is read after it were accepted. -/
theorem acceptedModes_batch {x : Exchange} {reads : List Exchange} {sql : String} {starts : Bool}
    (hcall : x.call = .batch sql) (hreads : ∀ r ∈ reads, r.call.isRead = true)
    (hswitches : startsTransactions? sql = some starts) :
    acceptedModes (x :: reads) =
      if ∀ y ∈ x :: reads, y.isAccepted = true then [starts] else [] := by
  have hmode : x.mode? = some starts := by
    unfold Exchange.mode?
    rw [hcall]
    exact hswitches
  have hall : reads.takeWhile (·.call.isRead) = reads := List.takeWhile_eq_self_iff.2 hreads
  rw [acceptedModes, hmode, hall, acceptedModes_eq_nil fun r hr => mode?_of_isRead (hreads r hr)]
  simp only [List.all_eq_true]

/-! ## Runs -/

/-- A step of the connection itself, not of one of its cursors. -/
def Action.isOwn : Action → Bool
  | .onCursor .. => false
  | _ => true

/-- A batch of the connection itself was composed by its step. -/
theorem Action.MayUse.composes {a : Action} (hown : a.isOwn = true) {sql : String}
    (h : a.MayUse (.batch sql)) : a.Composes sql := by
  rcases h.composes_or_requests with hcomposed | ⟨k, x, r, rfl, _⟩
  · exact hcomposed
  · cases hown

variable {σ : Type} [Session σ]

namespace Connection

/-- The modes that the server accepted in a run. What is given to a cursor is the program's own. -/
def modesIn (c : Connection (Transcribed σ)) (actions : List Action) : List Bool :=
  ((c.trace Transcribed.exchanges actions).filter (·.action.isOwn)).flatMap
    (acceptedModes ·.logged)

/-- Whether the server starts transactions after a run: by the last mode that it accepted since the
session began, and at first it does not. -/
def serverStarts (c : Connection (Transcribed σ)) (actions : List Action) : Bool :=
  (acceptedModes c.session.exchanges ++ c.modesIn actions).getLast?.getD false

end Connection

/-- A warning is raised as an error. -/
def Action.RaisesWarning (a : Action) (c : Connection σ) : Prop :=
  ∃ w c', a.perform c = .error (.warning w) c'

/-- An assignment of the mode that returns, or raises no more than a warning. -/
def Action.Switches (a : Action) (c : Connection σ) : Prop :=
  ∃ wanted, a = .setAutocommit (.bool wanted) ∧
    ((∃ answer c', a.perform c = .ok answer c') ∨ a.RaisesWarning c)

/-- No step of the run switches the server. -/
def Connection.ServerStays (c : Connection σ) : List Action → Prop
  | [] => True
  | a :: rest => ¬ a.Switches c ∧ ServerStays (a.perform.after c) rest

/-- An assignment of the mode that the connection is not in. A warning was raised as an error, so
it switches the server and not the connection. -/
def Action.SwitchesServerOnly (a : Action) (c : Connection σ) : Prop :=
  ∃ wanted, a = .setAutocommit (.bool wanted) ∧ c.autocommit ≠ wanted ∧ c.escalates = true ∧
    a.RaisesWarning c

/-- A step of the run switched the server only, and no later one switched it. -/
def Connection.LeftBehind (c : Connection σ) (actions : List Action) : Prop :=
  ∃ before a after, actions = before ++ a :: after ∧ a.SwitchesServerOnly (c.runAll before) ∧
    (c.runAll (before ++ [a])).ServerStays after

/-- What a step does to the mode and to the server. -/
inductive StepModes (a : Action) (c : Connection (Transcribed σ)) : Prop
  | kept (hstays : ¬ a.Switches c) (hmodes : c.modesIn [a] = [])
      (hmode : (a.perform.after c).autocommit = c.autocommit)
  | switched (wanted : Bool) (ha : a = .setAutocommit (.bool wanted)) (hstays : ¬ a.RaisesWarning c)
      (hswitches : a.Switches c) (hmodes : c.modesIn [a] = [!wanted])
      (hmode : (a.perform.after c).autocommit = wanted)
  | raised (wanted : Bool) (ha : a = .setAutocommit (.bool wanted)) (hraises : a.RaisesWarning c)
      (hescalates : c.escalates = true) (hmodes : c.modesIn [a] = [!wanted])
      (hmode : (a.perform.after c).autocommit = c.autocommit)

theorem modesIn_cons (a : Action) (c : Connection (Transcribed σ)) (rest : List Action) :
    c.modesIn (a :: rest) = c.modesIn [a] ++ (a.perform.after c).modesIn rest := by
  have hfirst : c.trace Transcribed.exchanges (a :: rest) =
      c.trace Transcribed.exchanges [a] ++ (a.perform.after c).trace Transcribed.exchanges rest := rfl
  unfold modesIn
  rw [hfirst, List.filter_append, List.flatMap_append]

/-- What counts of a step is what it says itself, not what a cursor was given. -/
theorem modesIn_singleton (a : Action) (c : Connection (Transcribed σ)) :
    c.modesIn [a] =
      if a.isOwn then acceptedModes (a.perform.logged Transcribed.exchanges c) else [] := by
  show (List.filter _ [(⟨a, a.perform.logged Transcribed.exchanges c⟩ : TracedStep Exchange)]).flatMap
    _ = _
  cases hown : a.isOwn with
  | false => simp [hown]
  | true => simp [hown]

/-- A statement of the connection does not set the mode. -/
theorem autocommit_execute (sql : String) (c : Connection σ) :
    ((execute sql).after c).autocommit = c.autocommit := by
  have huses : Uses { use := fun _ => True } (execute sql : Op σ Unit) :=
    uses_execute (fun _ _ => trivial) trivial
  have hkeeps := (huses.after c).2.resolve_right id
  unfold autocommit
  rw [hkeeps]

/-- A step does not switch the server if it raises an error that is no warning. -/
theorem not_switches_of_error {a : Action} {c c' : Connection σ} {e : Error}
    (hperform : a.perform c = .error e c') (he : ¬ IsRaisedWarning e) : ¬ a.Switches c := by
  rintro ⟨_, _, ⟨answer, d, hreturns⟩ | ⟨w, d, hraises⟩⟩
  · rw [hperform] at hreturns
    cases hreturns
  · rw [hperform] at hraises
    cases hraises
    exact he ⟨w, rfl⟩

/-- What an assignment does to the mode and to the server. -/
theorem stepModes_setAutocommit (wanted : Bool) (c : Connection (Transcribed σ)) :
    StepModes (.setAutocommit (.bool wanted)) c := by
  cases hfault : c.fault? with
  | some fault =>
      have hrefused : (Action.setAutocommit (.bool wanted)).perform c =
          .error (.interface fault) c := perform_of_fault hfault rfl
      have hnothing : (Action.setAutocommit (.bool wanted)).perform.logged Transcribed.exchanges c =
          [] := logged_eq (by rw [Op.after, hrefused, List.append_nil])
      refine .kept (not_switches_of_error hrefused ?_) ?_ ?_
      · rintro ⟨w, hw⟩
        cases hw
      · rw [modesIn_singleton, hnothing]
        rfl
      · rw [Op.after, hrefused]
  | none =>
      obtain ⟨x, reads, hlog, hcall, hreads, hends⟩ :=
        exchanges_execute hfault (switchStatement c.autocommit wanted)
      have hmode := autocommit_execute (switchStatement c.autocommit wanted) c
      have hperform := perform_setAutocommit hfault wanted
      have hmodes : c.modesIn [.setAutocommit (.bool wanted)] =
          if ∀ y ∈ x :: reads, y.isAccepted = true then [!wanted] else [] := by
        rw [← session_setAutocommit hfault wanted] at hlog
        rw [modesIn_singleton, logged_eq hlog]
        exact acceptedModes_batch hcall hreads (startsTransactions?_switchStatement _ wanted)
      unfold Op.after at hmode
      cases hended : execute (switchStatement c.autocommit wanted) c with
      | ok u d =>
          rw [hended] at hends hperform
          refine .switched wanted rfl ?_ ⟨wanted, rfl, .inl ⟨_, _, hperform⟩⟩
            (hmodes.trans (if_pos hends.2)) ?_
          · rintro ⟨w, c', hraises⟩
            rw [hperform] at hraises
            cases hraises
          · rw [Op.after, hperform]
            rfl
      | error e d =>
          rw [hended] at hends hperform hmode
          have hkept : ((Action.setAutocommit (.bool wanted)).perform.after c).autocommit =
              c.autocommit := by
            rw [Op.after, hperform]
            exact hmode
          -- The server accepted the batch in one of the two cases, and the mode is noted in neither.
          by_cases hwarning : IsRaisedWarning e
          · obtain ⟨w, rfl⟩ := hwarning
            exact .raised wanted rfl ⟨w, d, hperform⟩ (hends.escalates ⟨w, rfl⟩)
              (hmodes.trans (if_pos (hends.accepted.2 ⟨w, rfl⟩))) hkept
          · exact .kept (not_switches_of_error hperform hwarning)
              (hmodes.trans (if_neg fun h => hwarning (hends.accepted.1 h))) hkept

/-- What a step does to the mode and to the server. -/
theorem stepModes (a : Action) (c : Connection (Transcribed σ)) : StepModes a c := by
  by_cases hassigns : ∃ wanted, a = .setAutocommit (.bool wanted)
  · obtain ⟨wanted, rfl⟩ := hassigns
    exact stepModes_setAutocommit wanted c
  · have hstays : ¬ a.Switches c := fun ⟨wanted, ha, _⟩ => hassigns ⟨wanted, ha⟩
    refine .kept hstays ?_ ?_
    · rw [modesIn_singleton]
      split
      next hown =>
        refine acceptedModes_eq_nil fun x hx => ?_
        have hmay := (logged_of_uses Transcribed.logs_exchanges (uses_perform a) c).2 x hx
        unfold Exchange.mode?
        split
        next sql hbatch =>
          rw [hbatch] at hmay
          exact (hmay.composes hown).startsTransactions? fun wanted ha => hassigns ⟨wanted, ha⟩
        · rfl
      · rfl
    · unfold autocommit
      rcases autocommitMode_perform a c with hmode | ⟨wanted, _, ha⟩
      · rw [hmode]
      · exact absurd ⟨wanted, ha⟩ hassigns

/-! ## Agreement -/

/-- Whether a run leaves the connection behind is up to its first step, or to the rest. -/
theorem leftBehind_cons (a : Action) (c : Connection σ) (rest : List Action) :
    c.LeftBehind (a :: rest) ↔
      (a.SwitchesServerOnly c ∧ (a.perform.after c).ServerStays rest) ∨
        (a.perform.after c).LeftBehind rest := by
  constructor
  · rintro ⟨before, b, after, hsplit, hswitches, hstays⟩
    cases before with
    | nil =>
        obtain ⟨rfl, rfl⟩ := List.cons.inj hsplit
        exact .inl ⟨hswitches, hstays⟩
    | cons first before =>
        obtain ⟨rfl, rfl⟩ := List.cons.inj hsplit
        exact .inr ⟨before, b, after, rfl, hswitches, hstays⟩
  · rintro (⟨hswitches, hstays⟩ | ⟨before, b, after, rfl, hleft⟩)
    · exact ⟨[], a, rest, rfl, hswitches, hstays⟩
    · exact ⟨a :: before, b, after, rfl, hleft⟩

/-- A connection disagrees with its server after a step if it did before and the step leaves the
server alone, or if the step switches the server only. -/
theorem disagrees_perform (a : Action) (c : Connection (Transcribed σ)) (starts : Bool) :
    (a.perform.after c).autocommit = (c.modesIn [a]).getLast?.getD starts ↔
      (c.autocommit = starts ∧ ¬ a.Switches c) ∨ a.SwitchesServerOnly c := by
  cases stepModes a c with
  | kept hstays hmodes hmode =>
      rw [hmodes, hmode]
      refine ⟨fun h => .inl ⟨h, hstays⟩, ?_⟩
      rintro (h | ⟨wanted, rfl, _, _, hraises⟩)
      · exact h.1
      · exact absurd ⟨wanted, rfl, .inr hraises⟩ hstays
  | switched wanted ha hstays hswitches hmodes hmode =>
      rw [hmodes, hmode]
      refine ⟨fun h => ((Bool.eq_not_self wanted).1 h).elim, ?_⟩
      rintro (h | ⟨_, _, _, _, hraises⟩)
      · exact absurd hswitches h.2
      · exact absurd hraises hstays
  | raised wanted ha hraises hescalates hmodes hmode =>
      rw [hmodes, hmode]
      refine ⟨fun h => .inr ⟨wanted, ha, Bool.eq_not.1 h, hescalates, hraises⟩, ?_⟩
      rintro (h | ⟨other, hother, hdiffers, _⟩)
      · exact absurd ⟨wanted, ha, .inr hraises⟩ h.2
      · cases ha.symm.trans hother
        exact Bool.eq_not.2 hdiffers

/-- A connection disagrees with its server after a run if it did before and the run leaves the
server alone, or if the run leaves the connection behind. -/
theorem disagrees_runAll (c : Connection (Transcribed σ)) (actions : List Action) (starts : Bool) :
    (c.runAll actions).autocommit = (c.modesIn actions).getLast?.getD starts ↔
      (c.autocommit = starts ∧ c.ServerStays actions) ∨ c.LeftBehind actions := by
  induction actions generalizing c starts with
  | nil =>
      have hnone : ¬ c.LeftBehind [] := fun ⟨before, wanted, after, hsplit, _⟩ => by
        cases before <;> cases hsplit
      show c.autocommit = starts ↔ _
      simp [hnone, ServerStays]
  | cons a rest ih =>
      -- Only the last mode counts, so the rest starts from what the first step leaves.
      have hlast : (c.modesIn (a :: rest)).getLast?.getD starts =
          ((a.perform.after c).modesIn rest).getLast?.getD
            ((c.modesIn [a]).getLast?.getD starts) := by
        rw [modesIn_cons, List.getLast?_append]
        cases ((a.perform.after c).modesIn rest).getLast? <;> rfl
      rw [hlast, leftBehind_cons]
      refine (ih (a.perform.after c) _).trans ?_
      rw [disagrees_perform]
      constructor
      · rintro (⟨⟨hbefore, ha⟩ | hswitches, hstays⟩ | hleft)
        · exact .inl ⟨hbefore, ha, hstays⟩
        · exact .inr (.inl ⟨hswitches, hstays⟩)
        · exact .inr (.inr hleft)
      · rintro (⟨hbefore, ha, hstays⟩ | ⟨hswitches, hstays⟩ | hleft)
        · exact .inl ⟨.inl ⟨hbefore, ha⟩, hstays⟩
        · exact .inl ⟨.inr hswitches, hstays⟩
        · exact .inr hleft

/-- The server starts transactions if the last statement of the set-up is executed, and does not
otherwise. -/
theorem agrees_unlessAutocommit {c c' : Connection (Transcribed σ)} (husable : c.fault? = none)
    (hbefore : ∀ x ∈ c.session.exchanges, x.mode? = none)
    (hended : (do unless (← get).autocommit do execute (implicitTransactions true) :
      Op (Transcribed σ) Unit) c = .ok () c') :
    (acceptedModes c'.session.exchanges).getLast?.getD false = !c'.autocommit := by
  have hrest : (if c.autocommit then pure () else execute (implicitTransactions true) :
      Op (Transcribed σ) Unit) c = .ok () c' := hended
  cases hmode : c.autocommit with
  | true =>
      rw [hmode] at hrest
      cases hrest
      rw [hmode, acceptedModes_eq_nil hbefore]
      rfl
  | false =>
      rw [hmode] at hrest
      obtain ⟨x, reads, hlog, hcall, hreads, hends⟩ :=
        exchanges_execute husable (implicitTransactions true)
      have hkept := autocommit_execute (implicitTransactions true) c
      have hexecuted : execute (implicitTransactions true) c = .ok () c' := hrest
      rw [Op.after, hexecuted] at hlog hkept
      rw [hexecuted] at hends
      rw [hkept, hmode, hlog, acceptedModes_append hbefore,
        acceptedModes_batch hcall hreads (startsTransactions?_implicitTransactions true),
        if_pos hends.2]
      rfl

/-- A connection that was set up agrees with its server. -/
theorem agrees_setUp {o : ConnectionOptions} {s : σ} {c : Connection (Transcribed σ)}
    (hopened : setUp o.ansiDefaults.isTrue (o.connection ⟨s, []⟩) = .ok () c) :
    (acceptedModes c.session.exchanges).getLast?.getD false = !c.autocommit := by
  have husable : (o.connection (⟨s, []⟩ : Transcribed σ)).fault? = none := rfl
  unfold setUp at hopened
  split at hopened
  · obtain ⟨_, d, hsettings, hrest⟩ := bind_eq_ok.1 hopened
    obtain ⟨x, reads, hlog, hcall, hreads, hends⟩ := exchanges_execute husable sessionSettings
    rw [Op.after, hsettings] at hlog
    rw [hsettings] at hends
    refine agrees_unlessAutocommit hends.1 (fun y hy => ?_) hrest
    rw [hlog] at hy
    rcases List.mem_cons.1 hy with rfl | hread
    · unfold Exchange.mode?
      rw [hcall]
      decide +kernel
    · exact mode?_of_isRead (hreads y hread)
  · exact agrees_unlessAutocommit husable (fun x hx => absurd hx List.not_mem_nil) hopened

/-- A connection is opened over a session without a transcript, with any options, and used in any
way. It is out of autocommit mode exactly if the server starts transactions, by the last batch of
the connection that the server accepted, unless the run leaves the connection behind: the mode was
assigned that the connection is not in, the server accepted this but said something that was raised
as an error, so the connection did not note the mode; and no later step switched the server. -/
theorem mode_agrees {o : ConnectionOptions} {s : σ} {c : Connection (Transcribed σ)}
    (hopened : setUp o.ansiDefaults.isTrue (o.connection ⟨s, []⟩) = .ok () c)
    (actions : List Action) :
    ((c.runAll actions).autocommit = false ↔ c.serverStarts actions = true) ↔
      ¬ ∃ before wanted after, actions = before ++ .setAutocommit (.bool wanted) :: after ∧
        (c.runAll before).autocommit ≠ wanted ∧ (c.runAll before).escalates = true ∧
        (∃ w c', (Action.setAutocommit (.bool wanted)).perform (c.runAll before) =
          .error (.warning w) c') ∧
        (c.runAll (before ++ [.setAutocommit (.bool wanted)])).ServerStays after := by
  have hlast : c.serverStarts actions = (c.modesIn actions).getLast?.getD (!c.autocommit) := by
    unfold serverStarts
    rw [List.getLast?_append, ← agrees_setUp hopened]
    cases (c.modesIn actions).getLast? <;> rfl
  have hdisagrees : (c.runAll actions).autocommit = c.serverStarts actions ↔
      c.LeftBehind actions := by
    rw [hlast]
    refine (disagrees_runAll c actions _).trans ⟨fun h => h.resolve_left ?_, .inr⟩
    rintro ⟨hsame, _⟩
    exact (Bool.eq_not_self _).1 hsame
  have hagrees : ((c.runAll actions).autocommit = false ↔ c.serverStarts actions = true) ↔
      ¬ (c.runAll actions).autocommit = c.serverStarts actions := by
    cases (c.runAll actions).autocommit <;> cases c.serverStarts actions <;> decide
  rw [hagrees, hdisagrees]
  refine not_congr ⟨?_, ?_⟩
  · rintro ⟨before, _, after, hsplit, ⟨wanted, rfl, hdiffers, hescalates, hraises⟩, hstays⟩
    exact ⟨before, wanted, after, hsplit, hdiffers, hescalates, hraises, hstays⟩
  · rintro ⟨before, wanted, after, hsplit, hdiffers, hescalates, hraises, hstays⟩
    exact ⟨before, _, after, hsplit, ⟨wanted, rfl, hdiffers, hescalates, hraises⟩, hstays⟩

/-- A server that has something to say when it is told to start transactions. -/
def commenting : ScriptedSession where
  responses :=
    [(switchStatement true false, {
        playback := { messages := [⟨8153, 1, 10, "Null value is eliminated", "", "", 0⟩] } })]

/-- Options of a connection in autocommit mode that raises warnings as errors. -/
def raisingOptions : ConnectionOptions where
  autocommit := .bool true
  ansiDefaults := .bool false
  escalation := .bool true

/-- A connection to that server with these options. -/
def commented : Connection (Transcribed ScriptedSession) :=
  (setUp raisingOptions.ansiDefaults.isTrue).after (raisingOptions.connection ⟨commenting, []⟩)

theorem commented_opened :
    setUp raisingOptions.ansiDefaults.isTrue (raisingOptions.connection ⟨commenting, []⟩) =
      .ok () commented :=
  returns_iff.1 (by decide +kernel)

/-- The mode is assigned, once more after warnings are no longer raised, and then the connection and
its server agree. -/
theorem mode_agrees_commented :
    let actions := [.setAutocommit (.bool false), .setEscalation (.bool false),
      .setAutocommit (.bool false)]
    (commented.runAll actions).autocommit = false ↔ commented.serverStarts actions = true := by
  intro actions
  have hreturns : (Action.setAutocommit (.bool false)).perform.returns
      (commented.runAll (actions.take 2)) = true := by decide +kernel
  have hcalm : (commented.runAll (actions.take 2)).escalates = false := by decide +kernel
  refine (mode_agrees commented_opened actions).2 ?_
  rintro ⟨before, wanted, after, hsplit, _, hescalates, _, hstays⟩
  dsimp only [actions] at hsplit
  match before with
  | [] =>
      obtain ⟨ha, rfl⟩ := List.cons.inj hsplit
      cases ha
      refine hstays.2.1 ⟨false, rfl, .inl ?_⟩
      unfold returns at hreturns
      split at hreturns
      next answer c' hended => exact ⟨answer, c', hended⟩
      · cases hreturns
  | [_] => cases hsplit
  | [_, _] =>
      cases hsplit
      exact absurd hescalates (hcalm ▸ nofun)
  | _ :: _ :: _ :: _ => simp at hsplit

/-- The assignment raises the comment of the server. Then the server starts transactions and the
connection takes itself to be in autocommit mode, so that it commits nothing. -/
theorem raised_assignment_leaves_behind :
    Reachable commented ∧
      ¬ ((commented.runAll [.setAutocommit (.bool false)]).autocommit = false ↔
        commented.serverStarts [.setAutocommit (.bool false)] = true) ∧
      Action.commit.perform.logged Transcribed.exchanges
        (commented.runAll [.setAutocommit (.bool false)]) = [] := by
  refine ⟨.opened _ _ commented_opened, ?_, List.isEmpty_iff.1 (by decide +kernel)⟩
  have hmode : (commented.runAll [.setAutocommit (.bool false)]).autocommit = true := by
    decide +kernel
  have hserver : commented.serverStarts [.setAutocommit (.bool false)] = true := by decide +kernel
  rw [hmode, hserver]
  decide

end TdsClient
