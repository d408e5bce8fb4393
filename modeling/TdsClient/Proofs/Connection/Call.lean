import TdsClient.Connection.Statement

/-!
# Successful uses of the session

A use of the session succeeds exactly if the connection can be used, the
session gives a result, none of the messages is an error, and no warning is
raised. Then nothing happened but that the session moved on, the messages
were heard and the warnings issued.

## Main definitions

* `took` — the connection after a successful use.
* `announced` — the connection after warnings of the client.

## Main results

* `call_eq_ok_iff` — when a use of the session succeeds.
* `announce_eq_ok_iff` — when warnings of the client are not raised.
-/

namespace TdsClient.Connection

variable {σ α : Type}

/-! ## Usable connections -/

theorem checkUsable_of_usable {c : Connection σ} (husable : c.fault? = none) :
    checkUsable c = .ok () c := by
  unfold checkUsable refuseIf
  rw [husable]
  rfl

/-- A connection can be used if it was not closed and its session was not lost. -/
theorem fault?_eq_none_iff {c : Connection σ} :
    c.fault? = none ↔ c.isOpen = true ∧ c.isDead = false := by
  unfold fault?
  cases c.isOpen <;> cases c.isDead <;> simp

theorem isOpen_of_usable {c : Connection σ} (husable : c.fault? = none) : c.isOpen = true :=
  (fault?_eq_none_iff.1 husable).1

/-- A usable connection uses its session. -/
theorem call_of_usable (work : σ → Delivery α × σ) {c : Connection σ}
    (husable : c.fault? = none) :
    call work c =
      settle (work c.session).1 (c.received (work c.session).2 (work c.session).1.messages) := by
  show EStateM.bind checkUsable _ c = _
  unfold EStateM.bind
  rw [checkUsable_of_usable husable]
  rfl

/-! ## Success -/

/-- The connection after it issued warnings. -/
def warned (c : Connection σ) (ws : List Warning) : Connection σ :=
  { c with issued := c.issued ++ ws }

/-- The connection after its session was used and the messages gave no error. -/
def took (c : Connection σ) (used : Delivery α × σ) : Connection σ :=
  (c.received used.2 used.1.messages).warned (warningsOf used.1.messages)

theorem warned_nil (c : Connection σ) : c.warned [] = c := by
  unfold warned
  rw [List.append_nil]

theorem warned_append (c : Connection σ) (ws ws' : List Warning) :
    c.warned (ws ++ ws') = (c.warned ws).warned ws' := by
  unfold warned
  rw [← List.append_assoc]

/-- Warnings are issued unless one of them is raised. -/
theorem issueAll_eq_ok_iff (ws : List Warning) (c c' : Connection σ) (u : Unit) :
    issueAll ws c = .ok u c' ↔ (c.escalates = false ∨ ws = []) ∧ c' = c.warned ws := by
  induction ws generalizing c with
  | nil =>
      rw [warned_nil]
      constructor
      · intro h
        cases h
        exact ⟨.inr rfl, rfl⟩
      · rintro ⟨_, rfl⟩
        rfl
  | cons w rest ih =>
      rw [issueAll, Op.bind_eq_ok]
      have hstep : c.warned (w :: rest) = (c.warned [w]).warned rest := warned_append c [w] rest
      rw [hstep]
      constructor
      · rintro ⟨_, d, hissued, hrest⟩
        rw [issue_eq] at hissued
        by_cases hescalates : c.escalates = true
        · rw [if_pos hescalates] at hissued
          cases hissued
        · rw [if_neg hescalates] at hissued
          cases hissued
          exact ⟨.inl (by simpa using hescalates), ((ih _).1 hrest).2⟩
      · rintro ⟨hcalm, rfl⟩
        have hescalates : c.escalates = false := hcalm.resolve_right (List.cons_ne_nil w rest)
        refine ⟨(), c.warned [w], ?_, (ih _).2 ⟨.inl hescalates, rfl⟩⟩
        rw [issue_eq, hescalates]
        rfl

/-- Warnings of the client that are not raised are heard and issued. -/
theorem warnAll_of_calm (texts : List String) {c : Connection σ}
    (hcalm : c.escalates = false ∨ texts = []) :
    warnAll texts c =
      .ok () ((c.heard (texts.map .ofClient)).warned (texts.map .ofClient)) := by
  induction texts generalizing c with
  | nil =>
      show EStateM.Result.ok () c =
        .ok () { c with
          messages := c.messages ++ []
          journal := c.journal ++ []
          issued := c.issued ++ [] }
      rw [List.append_nil, List.append_nil, List.append_nil]
  | cons text rest ih =>
      have hsilent : c.escalates = false := hcalm.resolve_right nofun
      have hheard : (c.heard [.ofClient text]).escalates = false := hsilent
      have hwarned : ((c.heard [.ofClient text]).warned [.ofClient text]).escalates = false :=
        hsilent
      have hissued : warn text c = .ok () ((c.heard [.ofClient text]).warned [.ofClient text]) := by
        refine Op.bind_eq_ok.2 ⟨_, _, rfl, ?_⟩
        rw [issue_eq, hheard]
        rfl
      refine Op.bind_eq_ok.2 ⟨_, _, hissued, (ih (.inl hwarned)).trans ?_⟩
      simp only [heard, warned, List.append_assoc, List.map_cons, List.singleton_append,
        List.map_nil]

/-- Warnings of the client are heard and issued unless one of them is raised. -/
theorem warnAll_eq_ok_iff (texts : List String) (c c' : Connection σ) (u : Unit) :
    warnAll texts c = .ok u c' ↔ (c.escalates = false ∨ texts = []) ∧
      c' = (c.heard (texts.map .ofClient)).warned (texts.map .ofClient) := by
  constructor
  · intro h
    have hcalm : c.escalates = false ∨ texts = [] := by
      cases texts with
      | nil => exact .inr rfl
      | cons text rest =>
          obtain ⟨_, d, hwarned, -⟩ := Op.bind_eq_ok.1 h
          obtain ⟨_, e, hheard, hissued⟩ := Op.bind_eq_ok.1 hwarned
          cases hheard
          rw [issue_eq] at hissued
          split at hissued
          · cases hissued
          next hsilent => exact .inl (Bool.eq_false_iff.2 hsilent)
    rw [warnAll_of_calm texts hcalm] at h
    cases h
    exact ⟨hcalm, rfl⟩
  · rintro ⟨hcalm, rfl⟩
    exact warnAll_of_calm texts hcalm

/-- The connection after what was reported was announced. -/
def announced (c : Connection σ) (x : Reported α) : Connection σ :=
  (c.heard ((x.warnings.map BindingWarning.text).map .ofClient)).warned
    ((x.warnings.map BindingWarning.text).map .ofClient)

/-- What was reported is announced if there is a result and no warning is raised. -/
theorem announce_eq_ok_iff (x : Reported α) (c c' : Connection σ) (a : α) :
    announce x c = .ok a c' ↔ x.result = .ok a ∧ (c.escalates = false ∨ x.warnings = []) ∧
      c' = c.announced x := by
  rw [announce, Op.bind_eq_ok]
  constructor
  · rintro ⟨_, d, hwarned, hgiven⟩
    obtain ⟨hcalm, rfl⟩ := (warnAll_eq_ok_iff ..).1 hwarned
    obtain ⟨hresult, rfl⟩ := Op.ofExcept_eq_ok_iff.1 hgiven
    exact ⟨hresult, hcalm.imp_right List.map_eq_nil_iff.1, rfl⟩
  · rintro ⟨hresult, hcalm, rfl⟩
    refine ⟨(), _, (warnAll_eq_ok_iff ..).2 ⟨hcalm.imp_right List.map_eq_nil_iff.2, rfl⟩, ?_⟩
    exact Op.ofExcept_eq_ok_iff.2 ⟨hresult, rfl⟩

theorem report_eq_ok_iff (ms : List Message) (c c' : Connection σ) (u : Unit) :
    report ms c = .ok u c' ↔
      Message.worst? ms = none ∧ (c.escalates = false ∨ warningsOf ms = []) ∧
        c' = c.warned (warningsOf ms) := by
  unfold report
  cases Message.worst? ms with
  | none => simpa using issueAll_eq_ok_iff _ c c' u
  | some m => exact ⟨nofun, fun h => nomatch h.1⟩

theorem settle_eq_ok_iff (d : Delivery α) (c c' : Connection σ) (a : α) :
    settle d c = .ok a c' ↔
      d.result = .ok a ∧ Message.worst? d.messages = none ∧
        (c.escalates = false ∨ warningsOf d.messages = []) ∧
        c' = c.warned (warningsOf d.messages) := by
  unfold settle
  rcases d.result with failure | b
  · constructor
    · intro h
      cases failure <;> cases h
    · intro h
      cases h.1
  · rw [Op.bind_eq_ok]
    constructor
    · rintro ⟨_, e, hreported, hended⟩
      cases hended
      exact ⟨rfl, (report_eq_ok_iff _ _ _ _).1 hreported⟩
    · rintro ⟨hresult, hreport⟩
      cases hresult
      exact ⟨(), c', (report_eq_ok_iff _ _ _ _).2 hreport, rfl⟩

/-- When a use of the session succeeds, and what it leaves. -/
theorem call_eq_ok_iff (work : σ → Delivery α × σ) (c c' : Connection σ) (a : α) :
    call work c = .ok a c' ↔
      c.fault? = none ∧ (work c.session).1.result = .ok a ∧
        Message.worst? (work c.session).1.messages = none ∧
        (c.escalates = false ∨ warningsOf (work c.session).1.messages = []) ∧
        c' = c.took (work c.session) := by
  cases hfault : c.fault? with
  | none =>
      rw [call_of_usable work hfault, settle_eq_ok_iff]
      exact ⟨fun h => ⟨rfl, h⟩, fun h => h.2⟩
  | some fault =>
      constructor
      · intro h
        obtain ⟨_, d, hchecked, _⟩ := Op.bind_eq_ok.1 h
        rw [(checkUsable_eq_ok hchecked).2] at hfault
        cases hfault
      · intro h
        cases h.1

end TdsClient.Connection
