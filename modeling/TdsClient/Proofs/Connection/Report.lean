import TdsClient.Connection.Options
import TdsClient.Proofs.Connection.Call
import TdsClient.Proofs.Connection.Move
import TdsClient.Proofs.Operation
import TdsClient.Session.Script

/-!
# What becomes of a use of the session

A session delivers messages beside its result, and the connection makes one
outcome of both. A lost session comes first, whatever the messages. After
it come the errors among the messages, of which the most severe one is
raised, the earliest of several; they count whether the session gave a
result or rejected the request. Without an error a rejected request is
reported as the session says, and a result comes with the warnings.

No message is dropped on the way: all of them are recorded, once and in the
order in which they arrived.

## Main definitions

* `Message.IsFirstWorst` — the message that explains a failure.
* `Message.IsNotice` — the messages of which a program is warned.
* `Reports` — the outcome that a delivery has.

## Main results

* `Message.worst?_eq_some_iff` — that message is the one which is found.
* `after_call` — what a use of the session leaves, however it ends.
* `call_reports` — every use of the session has the outcome due.
-/

namespace TdsClient

/-! ## The message that explains a failure -/

namespace Message

/-- A message that reports an error, the first one of the greatest severity among others. -/
def IsFirstWorst (m : Message) (messages : List Message) : Prop :=
  10 < m.severity ∧ ∃ before after, messages = before ++ m :: after ∧
    (∀ x ∈ before, x.severity < m.severity) ∧ ∀ x ∈ after, x.severity ≤ m.severity

theorem isWarning_iff (m : Message) : m.isWarning = true ↔ m.severity ≤ 10 := by
  unfold isWarning maxWarningSeverity
  exact decide_eq_true_iff

/-- A message of which a program is warned unless it reports an error: it has a number, and none of
those that announce another database, language or character set. -/
def IsNotice (m : Message) : Prop :=
  0 < m.number ∧ m.number ≠ 5701 ∧ m.number ≠ 5703 ∧ m.number ≠ 5704

instance (m : Message) : Decidable m.IsNotice := inferInstanceAs (Decidable (_ ∧ _))

theorem isReported_iff (m : Message) : m.isReported = true ↔ m.IsNotice := by
  simp [isReported, environmentChanges, IsNotice]

theorem filter_isReported (messages : List Message) :
    messages.filter isReported = messages.filter (·.IsNotice) :=
  List.filter_congr fun m _ => by rw [Bool.eq_iff_iff, isReported_iff, decide_eq_true_iff]

theorem mem_errors_iff (m : Message) (messages : List Message) :
    m ∈ errors messages ↔ m ∈ messages ∧ 10 < m.severity := by
  have hwarning := isWarning_iff m
  unfold errors
  rw [List.mem_filter, Bool.not_eq_true', ← Bool.not_eq_true, hwarning, Int.not_le]

/-- Going through messages, the one that is kept stands after less severe ones only and before
ones that are not more severe. -/
theorem foldl_moreSevere_split (rest : List Message) (first : Message) :
    ∃ before after, first :: rest = before ++ rest.foldl moreSevere first :: after ∧
      (∀ x ∈ before, x.severity < (rest.foldl moreSevere first).severity) ∧
      ∀ x ∈ after, x.severity ≤ (rest.foldl moreSevere first).severity := by
  induction rest generalizing first with
  | nil => exact ⟨[], [], rfl, by simp, by simp⟩
  | cons m rest ih =>
      rw [List.foldl_cons]
      by_cases hless : first.severity < m.severity
      · have hstep : moreSevere first m = m := if_pos hless
        rw [hstep]
        obtain ⟨before, after, hsplit, hbefore, hafter⟩ := ih m
        have hkept := le_foldl_moreSevere rest m m (List.mem_cons_self ..)
        refine ⟨first :: before, after, congrArg (first :: ·) hsplit, ?_, hafter⟩
        exact List.forall_mem_cons.2 ⟨by omega, hbefore⟩
      · have hstep : moreSevere first m = first := if_neg hless
        rw [hstep]
        obtain ⟨before, after, hsplit, hbefore, hafter⟩ := ih first
        cases before with
        | nil =>
            obtain ⟨hfirst, hrest⟩ := List.cons.inj hsplit
            rw [← hfirst] at hafter ⊢
            refine ⟨[], m :: after, ?_, by simp, List.forall_mem_cons.2 ⟨by omega, hafter⟩⟩
            rw [hrest, List.nil_append]
        | cons x before =>
            obtain ⟨rfl, hrest⟩ := List.cons.inj hsplit
            obtain ⟨hfirst, hbefore⟩ := List.forall_mem_cons.1 hbefore
            refine ⟨first :: m :: before, after, ?_, ?_, hafter⟩
            · exact congrArg (first :: m :: ·) hrest
            · exact List.forall_mem_cons.2 ⟨hfirst, List.forall_mem_cons.2 ⟨by omega, hbefore⟩⟩

theorem isFirstWorst_of_worst? {messages : List Message} {m : Message}
    (h : worst? messages = some m) : m.IsFirstWorst messages := by
  have hsevere := ((mem_errors_iff m messages).1 (worst?_mem h)).2
  unfold worst? at h
  split at h
  · cases h
  next first rest hfirst =>
    obtain ⟨before, after, hsplit, hbefore, hafter⟩ := foldl_moreSevere_split rest first
    rw [Option.some.inj h] at hsplit hbefore hafter
    rw [hsplit] at hfirst
    -- What stands around it among the errors stands around it among all messages, and the
    -- messages between those are no errors.
    obtain ⟨early, late, rfl, hearly, hlate⟩ := List.filter_eq_append_iff.1 hfirst
    obtain ⟨quiet, later, rfl, hquiet, _, hlater⟩ := List.filter_eq_cons_iff.1 hlate
    have hmild : ∀ x : Message, ¬(!x.isWarning) = true → x.severity ≤ 10 := fun x hx =>
      (isWarning_iff x).1 (by simpa using hx)
    refine ⟨hsevere, early ++ quiet, later, by simp, ?_, ?_⟩
    · intro x hx
      by_cases herror : (!x.isWarning) = true
      · rcases List.mem_append.1 hx with hx | hx
        · exact hbefore x (hearly ▸ List.mem_filter.2 ⟨hx, herror⟩)
        · exact absurd herror (hquiet x hx)
      · have := hmild x herror
        omega
    · intro x hx
      by_cases herror : (!x.isWarning) = true
      · exact hafter x (hlater ▸ List.mem_filter.2 ⟨hx, herror⟩)
      · have := hmild x herror
        omega

/-- There is at most one such message. -/
theorem IsFirstWorst.unique {messages : List Message} {m m' : Message}
    (h : m.IsFirstWorst messages) (h' : m'.IsFirstWorst messages) : m = m' := by
  obtain ⟨_, before, after, hsplit, hbefore, hafter⟩ := h
  obtain ⟨_, before', after', hsplit', hbefore', hafter'⟩ := h'
  rcases List.append_eq_append_iff.1 (hsplit.symm.trans hsplit') with
    ⟨between, hlonger, hrest⟩ | ⟨between, hlonger, hrest⟩
  · cases between with
    | nil => exact (List.cons.inj hrest).1
    | cons x between =>
        obtain ⟨rfl, hlater⟩ := List.cons.inj hrest
        have hless := hbefore' m (hlonger ▸ List.mem_append_right _ (List.mem_cons_self ..))
        have hle := hafter m' (hlater ▸ List.mem_append_right _ (List.mem_cons_self ..))
        omega
  · cases between with
    | nil => exact (List.cons.inj hrest).1.symm
    | cons x between =>
        obtain ⟨rfl, hlater⟩ := List.cons.inj hrest
        have hless := hbefore m' (hlonger ▸ List.mem_append_right _ (List.mem_cons_self ..))
        have hle := hafter' m (hlater ▸ List.mem_append_right _ (List.mem_cons_self ..))
        omega

/-- The message found is the first of the most severe errors. -/
theorem worst?_eq_some_iff (messages : List Message) (m : Message) :
    worst? messages = some m ↔ m.IsFirstWorst messages := by
  constructor
  · exact isFirstWorst_of_worst?
  · intro h
    cases hworst : worst? messages with
    | some m' => rw [(isFirstWorst_of_worst? hworst).unique h]
    | none =>
        have hmem : m ∈ messages := by
          obtain ⟨_, before, after, rfl, _, _⟩ := h
          simp
        have hmild := (isWarning_iff m).1 ((worst?_eq_none_iff messages).1 hworst m hmem)
        have hsevere := h.1
        omega

end Message

/-- A refusal that says all that a message says, and is of the class of the message. -/
structure DatabaseError.Restates (e : DatabaseError) (m : Message) : Prop where
  errorClass : e.errorClass = m.errorClass
  text : e.text = m.description
  number : e.number = m.number
  severity : e.severity = m.severity
  state : e.state = m.state
  line : e.line = m.line
  procedure : e.procedure = m.procedure
  server : e.server = m.server
  message : e.message = some m

theorem DatabaseError.restates_ofMessage (m : Message) : (ofMessage m).Restates m :=
  ⟨rfl, rfl, rfl, rfl, rfl, rfl, rfl, rfl, rfl⟩

/-- Whether the server answered: there is a result, or the request was rejected. -/
def Delivery.IsAnswer {α : Type} (d : Delivery α) : Prop :=
  (∃ a, d.result = .ok a) ∨ ∃ text errorClass, d.result = .error (.rejected text errorClass)

namespace Connection

open Op

variable {σ α : Type}

/-! ## Outcomes -/

/-- The outcome of a use of the session, by what the session delivered and how it is afterwards.
The messages are recorded and the session is the new one; what else changes stands here. -/
structure Reports (c : Connection σ) (used : Delivery α × σ)
    (outcome : EStateM.Result Error (Connection σ) α) : Prop where
  lost : ∀ text timedOut, used.1.result = .error (.lost text timedOut) →
    outcome = .error (.interface (.sessionLost text))
      { c.received used.2 used.1.messages with isDead := true }
  failed : used.1.IsAnswer → (∃ m ∈ used.1.messages, 10 < m.severity) →
    ∃ m e, m.IsFirstWorst used.1.messages ∧ e.Restates m ∧
      outcome = .error (.database e) (c.received used.2 used.1.messages)
  rejected : (∀ m ∈ used.1.messages, m.severity ≤ 10) →
    ∀ text errorClass, used.1.result = .error (.rejected text errorClass) →
      outcome = .error (.database ⟨errorClass, text, none⟩) (c.received used.2 used.1.messages)
  returned : (∀ m ∈ used.1.messages, m.severity ≤ 10) → ∀ a, used.1.result = .ok a →
    c.escalates = false ∨ used.1.messages.filter (·.IsNotice) = [] →
      outcome = .ok a ((c.received used.2 used.1.messages).warned
        ((used.1.messages.filter (·.IsNotice)).map .ofMessage))
  escalated : (∀ m ∈ used.1.messages, m.severity ≤ 10) → ∀ a, used.1.result = .ok a →
    c.escalates = true → ∀ m rest, used.1.messages.filter (·.IsNotice) = m :: rest →
      outcome = .error (.warning (.ofMessage m)) (c.received used.2 used.1.messages)

/-- Of several warnings some are issued, and nothing else happens. -/
theorem after_issueAll (ws : List Warning) (c : Connection σ) :
    ∃ issued, (issueAll ws : Op σ Unit).after c = c.warned issued := by
  induction ws generalizing c with
  | nil => exact ⟨[], (warned_nil c).symm⟩
  | cons w rest ih =>
      rw [issueAll, after_bind, issue_eq]
      by_cases hescalates : c.escalates = true
      · rw [if_pos hescalates]
        exact ⟨[], (warned_nil c).symm⟩
      · rw [if_neg hescalates]
        obtain ⟨issued, hissued⟩ := ih (c.warned [w])
        exact ⟨w :: issued, hissued.trans (warned_append c [w] issued).symm⟩

theorem after_report (ms : List Message) (c : Connection σ) :
    ∃ issued, (report ms : Op σ Unit).after c = c.warned issued := by
  unfold report
  cases Message.worst? ms with
  | some m => exact ⟨[], (warned_nil c).symm⟩
  | none => exact after_issueAll _ c

/-- However a delivery is settled, a lost session leaves the connection dead, warnings may be
issued, and nothing else happens. -/
theorem after_settle (d : Delivery α) (c : Connection σ) :
    ∃ issued, (settle d).after c =
      ({ c with isDead := c.isDead || d.isLost } : Connection σ).warned issued := by
  unfold settle Delivery.isLost
  rcases d.result with failure | a
  · refine ⟨[], ?_⟩
    rw [warned_nil]
    cases failure with
    | lost text timedOut =>
        rw [Bool.or_true]
        rfl
    | _ =>
        rw [Bool.or_false]
        rfl
  · obtain ⟨issued, hissued⟩ := after_report d.messages c
    refine ⟨issued, ?_⟩
    rw [Bool.or_false, ← hissued, after_bind]
    unfold Op.after
    cases (report d.messages : Op σ Unit) c with
    | ok u c' => rfl
    | error e c' => rfl

/-- However a use of the session ends, the connection has taken in what was delivered, and
warnings may have been issued. -/
theorem after_call (work : σ → Delivery α × σ) {c : Connection σ} (husable : c.fault? = none) :
    ∃ issued, (call work).after c = (c.absorbed (work c.session)).warned issued := by
  obtain ⟨issued, hissued⟩ := after_settle (work c.session).1
    (c.received (work c.session).2 (work c.session).1.messages)
  refine ⟨issued, ?_⟩
  unfold Op.after
  rw [call_of_usable work husable]
  exact hissued

/-- The first of several warnings is raised if warnings are. -/
theorem issueAll_of_escalates {c : Connection σ} (hescalates : c.escalates = true) (w : Warning)
    (rest : List Warning) : (issueAll (w :: rest) : Op σ Unit) c = .error (.warning w) c := by
  apply bind_of_error
  rw [issue_eq, if_pos hescalates]

/-- What is delivered has the outcome due. -/
theorem reports_settle (d : Delivery α) (c : Connection σ) (session : σ) :
    Reports c (d, session) (settle d (c.received session d.messages)) where
  lost text timedOut hresult := by
    unfold settle
    rw [hresult]
    rfl
  failed hanswer herror := by
    obtain ⟨x, hx, hsevere⟩ := herror
    cases hworst : Message.worst? d.messages with
    | none =>
        have hmild := (Message.worst?_eq_none_iff _).1 hworst x hx
        rw [Message.isWarning_iff] at hmild
        omega
    | some m =>
        refine ⟨m, .ofMessage m, Message.isFirstWorst_of_worst? hworst,
          DatabaseError.restates_ofMessage m, ?_⟩
        unfold settle
        rcases hanswer with ⟨a, hresult⟩ | ⟨text, errorClass, hresult⟩
        · rw [hresult]
          apply bind_of_error
          unfold report
          rw [hworst]
          rfl
        · rw [hresult]
          unfold rejection
          rw [hworst]
          rfl
  rejected hmild text errorClass hresult := by
    have hworst : Message.worst? d.messages = none :=
      (Message.worst?_eq_none_iff _).2 fun m hm => (Message.isWarning_iff m).2 (hmild m hm)
    unfold settle rejection
    rw [hresult, hworst]
    rfl
  returned hmild a hresult hcalm := by
    rw [← Message.filter_isReported] at hcalm ⊢
    refine (settle_eq_ok_iff _ _ _ _).2 ⟨hresult, ?_, hcalm.imp_right ?_, rfl⟩
    · exact (Message.worst?_eq_none_iff _).2 fun m hm => (Message.isWarning_iff m).2 (hmild m hm)
    · exact fun hnone => congrArg (List.map Warning.ofMessage) hnone
  escalated hmild a hresult hescalates m rest hreported := by
    have hworst : Message.worst? d.messages = none :=
      (Message.worst?_eq_none_iff _).2 fun m hm => (Message.isWarning_iff m).2 (hmild m hm)
    have hwarnings : warningsOf d.messages = .ofMessage m :: rest.map .ofMessage :=
      congrArg (List.map Warning.ofMessage) ((Message.filter_isReported _).trans hreported)
    unfold settle
    rw [hresult]
    apply bind_of_error
    unfold report
    rw [hworst, hwarnings]
    exact issueAll_of_escalates (c := c.received session d.messages) hescalates _ _

/-- Whatever a session delivers when it is used, all messages are recorded in their order, and the
outcome is the one due: no error of the server is passed over, and each warning is issued once. -/
theorem call_reports (work : σ → Delivery α × σ) {c : Connection σ} (husable : c.fault? = none) :
    ((call work).after c).messages = c.messages ++ (work c.session).1.messages ∧
      Reports c (work c.session) (call work c) := by
  constructor
  · obtain ⟨issued, hafter⟩ := after_call work husable
    rw [hafter]
    rfl
  · rw [call_of_usable work husable]
    exact reports_settle _ _ _

/-- A server that answers a statement with a warning and three errors, and fails nothing. -/
def threeErrors : ScriptedSession where
  responses :=
    [("INSERT", {
        playback := { messages :=
          [⟨8153, 1, 10, "Null value is eliminated", "", "", 1⟩,
            ⟨2627, 1, 14, "Violation of PRIMARY KEY constraint", "", "", 2⟩,
            ⟨3621, 1, 16, "The statement has been terminated.", "", "", 3⟩,
            ⟨547, 1, 16, "The statement conflicted with a constraint", "", "", 4⟩] } })]

/-- A server that answers a statement with two notices, word of another database before them, and a
message without a number behind them. -/
def twoNotices : ScriptedSession where
  responses :=
    [("INSERT", {
        playback := { messages :=
          [⟨5701, 2, 0, "Changed database context to 'master'.", "", "", 1⟩,
            ⟨8153, 1, 10, "Null value is eliminated", "", "", 1⟩,
            ⟨3607, 1, 0, "Division by zero occurred.", "", "", 2⟩,
            ⟨0, 1, 0, "done", "", "", 3⟩] } })]

/-- Of the two most severe errors the earlier one is raised, and all four messages are kept. Of the
messages of a statement that succeeds the two notices are issued as warnings, or the first of them
is raised. -/
theorem call_reports_insert :
    let c := ConnectionOptions.connection {} threeErrors
    let calm := ConnectionOptions.connection {} twoNotices
    let strict := ConnectionOptions.connection { escalation := .bool true } twoNotices
    (c.fault? = none ∧ ∃ e c', call (Session.submitBatch "INSERT") c = .error (.database e) c' ∧
      e.number = 3621 ∧ e.errorClass = .programming ∧ c'.messages.length = 4) ∧
    (calm.fault? = none ∧ ∃ c', call (Session.submitBatch "INSERT") calm = .ok () c' ∧
      c'.issued.map (·.text) = ["Null value is eliminated", "Division by zero occurred."] ∧
      c'.messages.length = 4) ∧
    strict.fault? = none ∧ ∃ m c',
      call (Session.submitBatch "INSERT") strict = .error (.warning (.ofMessage m)) c' ∧
      m.number = 8153 ∧ c'.messages.length = 4 := by
  intro c calm strict
  refine ⟨?_, ?_, ?_⟩
  · have husable : c.fault? = none := rfl
    obtain ⟨hheard, hreports⟩ := call_reports (Session.submitBatch "INSERT") husable
    obtain ⟨m, e, hworst, hrestates, houtcome⟩ :=
      hreports.failed (.inl ⟨(), rfl⟩) (by decide +kernel)
    refine ⟨husable, e, _, houtcome, ?_⟩
    have hfound := (Message.worst?_eq_some_iff _ _).2 hworst
    have hnumber : (Message.worst? (Session.submitBatch "INSERT" c.session).1.messages).map
        (·.number) = some 3621 := by decide +kernel
    have hclass : (Message.worst? (Session.submitBatch "INSERT" c.session).1.messages).map
        (·.errorClass) = some .programming := by decide +kernel
    rw [hfound] at hnumber hclass
    refine ⟨hrestates.number.trans (Option.some.inj hnumber),
      hrestates.errorClass.trans (Option.some.inj hclass), ?_⟩
    unfold Op.after at hheard
    rw [houtcome] at hheard
    rw [hheard]
    decide +kernel
  · have husable : calm.fault? = none := rfl
    obtain ⟨-, hreports⟩ := call_reports (Session.submitBatch "INSERT") husable
    have houtcome := hreports.returned (by decide +kernel) () rfl (.inl rfl)
    refine ⟨husable, _, houtcome, ?_, ?_⟩ <;> decide +kernel
  · have husable : strict.fault? = none := rfl
    obtain ⟨-, hreports⟩ := call_reports (Session.submitBatch "INSERT") husable
    have houtcome := hreports.escalated (by decide +kernel) () rfl rfl
      ⟨8153, 1, 10, "Null value is eliminated", "", "", 1⟩
      [⟨3607, 1, 0, "Division by zero occurred.", "", "", 2⟩] (by decide +kernel)
    exact ⟨husable, _, _, houtcome, rfl, by decide +kernel⟩

end Connection

end TdsClient
