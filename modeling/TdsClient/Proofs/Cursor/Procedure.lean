import TdsClient.Proofs.Cursor.Repetition
import TdsClient.Proofs.Statement.Procedure

/-!
# Calling a procedure

A procedure is called and the cursor goes on to the first result set of the
response. There may be none; then the arguments are given back with the values
that the server returned for outputs. If there is one then it is left to be
read, the arguments are given back as they are, and if there are outputs among
them the client warns that they are not supported. It does so on no other
occasion.

A column of a type that the client does not read makes the call fail, though
nothing is wrong with the arguments and the session.

## Main definitions

* `Leads` — the first result set of a response.
* `Cursor.IsUnread` — a cursor whose result set is yet to be read.
* `Cursor.CallsWell` — a call with which nothing is wrong.
* `Cursor.GivesBack` — what such a call gives back.

## Main results

* `callProcedure_gives_back` — what a call gives back, and what it refuses.
* `callProcedure_refusals` — calls that are refused for other reasons.
-/

namespace TdsClient

open Connection Op Request

variable {σ : Type}

/-- The column as it is used. -/
def Column.normalized (version : Version) (c : Column) : Column :=
  { c with typeCode := c.normalCode version }

/-- Columns of supported types are used. -/
theorem Column.mapM_normalize {columns : List Column}
    (h : ∀ column ∈ columns, column.typeCode ∉ TypeCode.unsupported) (version : Version) :
    columns.mapM (Column.normalize version) = .ok (columns.map (Column.normalized version)) := by
  induction columns with
  | nil => rfl
  | cons column rest ih =>
      have hfirst : column.normalize version = .ok (column.normalized version) :=
        if_neg (h column List.mem_cons_self)
      rw [List.mapM_cons, hfirst, ih fun other hother => h other (List.mem_cons_of_mem _ hother)]
      rfl

/-- The first result set of a response, if there is one, and the session there or at the end. Row
counts are passed over. There is no error on the way, and no warning that is raised. -/
inductive Leads [Session σ] (escalates : Bool) : σ → Option (List Column) → σ → Prop
  | complete {s : σ} (h : Answers escalates (Session.nextResult s).1 none) :
      Leads escalates s none (Session.nextResult s).2
  | set {s : σ} {columns : List Column} (hcolumns : columns ≠ [])
      (h : Answers escalates (Session.nextResult s).1 (some columns)) :
      Leads escalates s (some columns) (Session.nextResult s).2
  | count {s t : σ} {found : Option (List Column)}
      (h : Answers escalates (Session.nextResult s).1 (some []))
      (hrest : Leads escalates (Session.nextResult s).2 found t) : Leads escalates s found t

namespace Cursor

/-! ## The warning about outputs -/

/-- The warning that outputs are not supported. -/
def outputsWarning : Warning := .ofClient outputsUnsupported

/-- How often a connection has warned that outputs are not supported. -/
def timesWarned (c : Connection σ) : Nat := c.issued.count outputsWarning

/-- No message of the server is reported as this warning: theirs have numbers. -/
theorem count_warningsOf (messages : List Message) :
    (warningsOf messages).count outputsWarning = 0 := by
  rw [List.count_eq_zero]
  intro hmem
  obtain ⟨m, hm, heq⟩ := List.mem_map.1 hmem
  have hreported := (List.mem_filter.1 hm).2
  obtain rfl : m = .ofClient outputsUnsupported :=
    Option.some.inj (congrArg Warning.message heq)
  exact absurd hreported (by decide)

/-- A text begins like its first part. -/
theorem head?_append {first : String} {c : Char} (h : first.toList.head? = some c)
    (rest : String) : (first ++ rest).toList.head? = some c := by
  rw [String.toList_append, List.head?_append, h]
  rfl

/-- No loss in binding is worded like this warning. -/
theorem text_ne_outputsUnsupported (w : BindingWarning) : w.text ≠ outputsUnsupported := by
  -- the first letters tell them apart
  have hletter : w.text.toList.head? = some 'U' ∨ w.text.toList.head? = some 'D' := by
    have hreplaced : ∀ code charset, (replacedText code charset).toList.head? = some 'U' := by
      intro code charset
      unfold replacedText
      simp only [String.append_assoc]
      exact head?_append (by decide) _
    unfold BindingWarning.text
    cases w with
    | unrepresentable c charset => exact .inl (hreplaced c.toNat charset)
    | surrogate index charset => exact .inl (hreplaced _ charset)
    | precisionExceeded d =>
        unfold Value.literal applied
        simp only [String.append_assoc]
        exact .inr (head?_append (by decide) _)
  intro htext
  rw [htext] at hletter
  exact absurd hletter (by decide)

theorem count_bindingWarnings (ws : List BindingWarning) :
    ((ws.map BindingWarning.text).map Warning.ofClient).count outputsWarning = 0 := by
  rw [List.count_eq_zero]
  intro hmem
  obtain ⟨text, htext, heq⟩ := List.mem_map.1 hmem
  obtain ⟨w, -, rfl⟩ := List.mem_map.1 htext
  exact text_ne_outputsUnsupported w (congrArg Warning.text heq)

/-! ## The way of a call -/

/-- The statement of a cursor is on its way: the session has come so far, and outputs were not
warned about. -/
structure IsUnderway (k : Cursor) (c : Connection σ) (s : σ) (d : Connection σ) : Prop where
  ready : Ready k c.escalates d
  session : d.session = s
  quiet : timesWarned d = timesWarned c

variable {k : Cursor} {c d : Connection σ} {s t : σ}

theorem IsUnderway.changed (h : IsUnderway k c s d) (f : CursorRecord → CursorRecord) :
    IsUnderway k c s (d.changed k f) :=
  ⟨h.ready.changed f, h.session, h.quiet⟩

theorem IsUnderway.took {α : Type} (h : IsUnderway k c s d) (used : Delivery α × σ) :
    IsUnderway k c used.2 (d.took used) where
  ready := h.ready.took used
  session := rfl
  quiet := by
    have hissued : (d.took used).issued = d.issued ++ warningsOf used.1.messages := rfl
    unfold timesWarned
    rw [hissued, List.count_append, count_warningsOf, Nat.add_zero]
    exact h.quiet

theorem IsUnderway.announced {α : Type} (h : IsUnderway k c s d) (x : Reported α) :
    IsUnderway k c s (d.announced x) where
  ready := ⟨h.ready.has, h.ready.usable, h.ready.escalates⟩
  session := h.session
  quiet := by
    have hissued : (d.announced x).issued =
        d.issued ++ (x.warnings.map BindingWarning.text).map Warning.ofClient := rfl
    unfold timesWarned
    rw [hissued, List.count_append, count_bindingWarnings, Nat.add_zero]
    exact h.quiet

/-- A statement of a cursor that can be used begins. -/
theorem begin_underway (hk : c.IsOpen k) (husable : c.fault? = none) :
    ∃ d, k.begin c = .ok () d ∧ IsUnderway k c c.session d ∧ d.inference = c.inference := by
  have hbegins := begins_begun hk.1 husable
  refine ⟨_, begin_of_usable hk.2 husable,
    ⟨hbegins.stands.ready, hbegins.stands.session, ?_⟩, hbegins.inference⟩
  obtain ⟨cursors, hbegun⟩ := begun_eq c (some k.index)
  rw [hbegun]
  rfl

/-- What is reported is announced if no warning is raised. -/
theorem announce_underway {α : Type} (h : IsUnderway k c s d) {x : Reported α}
    (hcalm : c.escalates = false ∨ x.warnings = []) :
    announce x d = Op.ofExcept x.result (d.announced x) := by
  rw [← h.ready.escalates] at hcalm
  exact bind_of_ok _ (warnAll_of_calm _ (hcalm.imp_right List.map_eq_nil_iff.2))

variable [Session σ]

/-- A request that is accepted leaves the session before its response. -/
theorem submit_underway (h : IsUnderway k c s d) {request : Request}
    (hanswers : Answers c.escalates (ask request s).1 ()) :
    ∃ e, k.submit request d = .ok () e ∧ IsUnderway k c (ask request s).2 e := by
  have hnoted : IsUnderway k c s (d.noted (some k.index) request) :=
    ⟨⟨h.ready.has, h.ready.usable, h.ready.escalates⟩, h.session, h.quiet⟩
  obtain rfl : d.session = s := h.session
  obtain ⟨f, hsubmit⟩ := submit_of_answers h.ready hanswers
  exact ⟨_, hsubmit, (hnoted.took _).changed f⟩

/-! ## The first result set -/

/-- A cursor at the start of a result set. -/
structure IsAtStart (k : Cursor) (columns : List Column) (c : Connection σ) : Prop where
  state : (k.recordIn c).state = .hasResults
  description : (k.recordIn c).description = some (columns.map Column.describe)
  names : (k.recordIn c).columnNames = some (columns.map (·.name))
  conversions : (k.recordIn c).conversions = some (Column.conversions columns)
  rowNumber : (k.recordIn c).rowNumber = some 0

/-- Where a cursor is that was led to a result set, or to the end. -/
def IsLed (k : Cursor) (c : Connection σ) (found : Option (List Column)) (t : σ)
    (d : Connection σ) : Prop :=
  IsUnderway k c t d ∧
  match found with
  | none => (k.recordIn d).state = .exhausted
  | some columns => IsAtStart k (columns.map (Column.normalized (Session.version t))) d

/-- From the end of the response a cursor is led nowhere else. -/
theorem led_complete (h : IsUnderway k c s d)
    (hanswers : Answers c.escalates (Session.nextResult s).1 none) (b : Bool) :
    ∃ e, k.advanceStep b d = .ok (.done false) e ∧ IsLed k c none (Session.nextResult s).2 e := by
  obtain rfl : d.session = s := h.session
  obtain ⟨f, hstep, hended⟩ := advanceStep_complete h.ready hanswers b
  refine ⟨_, hstep, (h.took _).changed f, ?_⟩
  rw [h.ready.recordIn_changed]
  exact (hended _).1

/-- It is led to a result set with supported columns. -/
theorem led_set (h : IsUnderway k c s d) {columns : List Column} (hcolumns : columns ≠ [])
    (hsupported : ∀ column ∈ columns, column.typeCode ∉ TypeCode.unsupported)
    (hanswers : Answers c.escalates (Session.nextResult s).1 (some columns)) (b : Bool) :
    ∃ e, k.advanceStep b d = .ok (.done true) e ∧
      IsLed k c (some columns) (Session.nextResult s).2 e := by
  obtain rfl : d.session = s := h.session
  obtain ⟨f, hstep⟩ := advanceStep_set h.ready hcolumns hanswers rfl
    (Column.mapM_normalize hsupported _) b
  have hcounted := (h.took (Session.nextResult d.session)).changed f
  have hrecord := recordIn_modifyCursor_self hcounted.ready.has
    (·.reach (columns.map (Column.normalized (Session.version (Session.nextResult d.session).2))))
  refine ⟨_, hstep, hcounted.changed _, ?_⟩
  constructor
  · exact congrArg (·.state) hrecord
  · exact congrArg (·.description) hrecord
  · exact congrArg (·.columnNames) hrecord
  · exact congrArg (·.conversions) hrecord
  · exact congrArg (·.rowNumber) hrecord

/-- All columns of the result set, if there is one, are of types that the client reads. -/
def IsSupported (found : Option (List Column)) : Prop :=
  ∀ columns, found = some columns → ∀ column ∈ columns, column.typeCode ∉ TypeCode.unsupported

/-- Going on, a cursor is led to the first result set, or to the end. -/
theorem succeeds_advance_of_leads {found : Option (List Column)} (hsupported : IsSupported found) :
    Succeeds (fun d => ∃ s, Leads c.escalates s found t ∧ IsUnderway k c s d)
      (k.advance : Op σ Bool) fun _ d => IsLed k c found t d := by
  -- before every turn the rest of the response leads there
  apply Meets.looping (I := fun _ d => ∃ s, Leads c.escalates s found t ∧ IsUnderway k c s d)
  intro b
  apply succeeds_iff.2
  intro d hd
  obtain ⟨s, hleads, hunderway⟩ := hd
  cases hleads with
  | complete hanswers =>
      obtain ⟨e, hstep, hled⟩ := led_complete hunderway hanswers b
      exact ⟨_, e, hstep, hled⟩
  | set hcolumns hanswers =>
      obtain ⟨e, hstep, hled⟩ := led_set hunderway hcolumns (hsupported _ rfl) hanswers b
      exact ⟨_, e, hstep, hled⟩
  | count hanswers hrest =>
      obtain rfl : d.session = s := hunderway.session
      obtain ⟨f, hstep⟩ := advanceStep_count hunderway.ready hanswers b
      exact ⟨_, _, hstep, _, hrest, (hunderway.took _).changed f⟩

/-- A request is submitted, and the cursor led to the first result set of its response. -/
theorem run_of_leads (h : IsUnderway k c s d) (request : Request)
    (hanswers : Answers c.escalates (ask request s).1 ()) {found : Option (List Column)}
    (hleads : Leads c.escalates (ask request s).2 found t) (hsupported : IsSupported found) :
    ∃ e, k.run request d = .ok () e ∧ IsLed k c found t e := by
  obtain ⟨e, hsubmit, hunderway⟩ := submit_underway h hanswers
  obtain ⟨_, f, hadvance, hled⟩ :=
    succeeds_iff.1 (succeeds_advance_of_leads hsupported) e ⟨_, hleads, hunderway⟩
  refine ⟨f, protect_of_ok ?_, hled⟩
  exact bind_eq_ok.2 ⟨_, _, hsubmit, bind_eq_ok.2 ⟨_, _, hadvance, rfl⟩⟩

/-! ## Reading on -/

/-- A cursor whose result set is yet to be read: it is described, no row of it was read, and the next
row of the session is the one that is fetched next. If it is known what the session has still to
give, a program that goes on is told all of it. -/
structure IsUnread (k : Cursor) (escalates : Bool) (columns : List Column) (c : Connection σ) :
    Prop where
  description : (k.recordIn c).description = some (columns.map Column.describe)
  rowNumber : (k.recordIn c).rowNumber = some 0
  row : ∀ values row, Answers escalates (Session.fetchRow c.session).1 (some values) →
    Column.convertRow (Column.conversions columns) values = .ok row →
    ∃ c', k.fetchOne c = .ok (some ⟨columns.map (·.name), row⟩) c'
  served : ∀ {version : Version}
    {Holds : σ → Option (List (List Value)) → List ServerResult → Prop},
    Serves escalates version Holds → ∀ raws rows results shown,
      Holds c.session (some raws) results →
      List.Forall₂ (fun raw row => Column.convertRow (Column.conversions columns) raw = .ok row)
        raws rows →
      List.Forall₂ (Presents version) results shown → ∀ steps,
      k.replies steps c = (View.onSet ⟨columns.map Column.describe, columns.map (·.name), rows⟩ 0
        true shown.reduceOption).replies steps

section start

variable {columns : List Column} {escalates : Bool}

/-- The first row is the next one of the session. -/
theorem IsAtStart.fetchOne (h : IsAtStart k columns c) (hready : Ready k escalates c)
    {values row : List Value}
    (hanswers : Answers escalates (Session.fetchRow c.session).1 (some values))
    (hconverted : Column.convertRow (Column.conversions columns) values = .ok row) :
    ∃ c', k.fetchOne c = .ok (some ⟨columns.map (·.name), row⟩) c' := by
  have hchecked : k.checkResults c = .ok () c :=
    checkResults_of_described hready h.state h.description
  have hread := readRow_of_answers hready h.state hanswers ⟨_, h.conversions, hconverted⟩
  have hrecord := hready.recordIn_changed (Session.fetchRow c.session) (·.countRow)
  have hnames := columnNames_of_known ((congrArg (·.columnNames) hrecord).trans h.names)
  exact ⟨_, bind_eq_ok.2 ⟨_, _, hchecked, bind_eq_ok.2 ⟨_, _, hread,
    bind_eq_ok.2 ⟨_, _, hnames, rfl⟩⟩⟩⟩

/-- At the start of a result set all of it is yet to be read. -/
theorem IsAtStart.isUnread (h : IsAtStart k columns c) (hready : Ready k escalates c) :
    IsUnread k escalates columns c where
  description := h.description
  rowNumber := h.rowNumber
  row _ _ := h.fetchOne hready
  served := by
    intro version Holds hserves raws rows results shown hholds hrows hshown steps
    refine (replies_of_shows hserves (.onSet hready ?_ ?_ ⟨results, shown, hholds, hshown, rfl⟩)
      steps).1
    · exact ⟨h.state, h.description, h.names, h.rowNumber, nofun, Nat.zero_le _⟩
    · exact hrows.imp fun raw row hconverted => ⟨_, h.conversions, hconverted⟩

end start

/-! ## Calls -/

/-- Some of the arguments are outputs. -/
def HasOutput (arguments : List (String × Value)) : Prop :=
  ∃ a ∈ arguments, ∃ inner, a.2 = .parameter inner true

omit [Session σ] in
/-- The parameters have outputs if the arguments do. -/
theorem any_output_iff {i : Inference} {arguments : List (String × Value)}
    {bound : List BoundParameter} (hbound : (bindAll i true arguments).result = .ok bound) :
    bound.any (·.output) = true ↔ HasOutput arguments := by
  have hnamed := forall₂_bindAll hbound
  clear hbound
  induction hnamed with
  | nil => exact iff_of_false nofun (fun h => nomatch h.choose_spec.1)
  | cons hfirst _ ih =>
      obtain ⟨-, b, -, -, -, -, houtput⟩ := hfirst
      rw [List.any_cons, Bool.or_eq_true, houtput]
      unfold HasOutput at ih ⊢
      rw [List.exists_mem_cons_iff]
      exact or_congr (isOutput_unwrapArgument_iff _) ih

/-- The call of a procedure with which nothing is wrong. Its arguments, under their names, are bound
to parameters, the session accepts the call, and its response leads to a result set or to its end.
On the way, and behind it if outputs are among the arguments, no warning is raised. -/
structure CallsWell (c : Connection σ) (procedure : String) (given : Value)
    (arguments : List (String × Value)) (bound : List BoundParameter)
    (found : Option (List Column)) (t : σ) : Prop where
  names : NamesArguments given arguments
  binds : (bindAll c.inference true arguments).result = .ok bound
  accepted : Answers c.escalates (Session.submitCall procedure bound c.session).1 ()
  leads : Leads c.escalates (Session.submitCall procedure bound c.session).2 found t
  calm : c.escalates = false ∨ (bindAll c.inference true arguments).warnings = []
  unraised : c.escalates = false ∨ found = none ∨ ¬ HasOutput arguments

variable {procedure : String} {given : Value} {arguments : List (String × Value)}
  {bound : List BoundParameter} {found : Option (List Column)}

/-- The request is made and its response reached. -/
theorem callProcedure_eq (hk : c.IsOpen k) (husable : c.fault? = none)
    (h : CallsWell c procedure given arguments bound found t) (hsupported : IsSupported found) :
    ∃ d, IsLed k c found t d ∧ k.callProcedure procedure given c =
      if (k.recordIn d).state = .hasResults then
        (do
          if bound.any (·.output) then warn outputsUnsupported
          return given : Op σ Value) d
      else .ok (withOutputs given (resolveFrom (Session.outputs d.session) 0 bound)) d := by
  obtain ⟨d, hbegin, hunderway, hinference⟩ := begin_underway hk husable
  have hrequest : ofProcedure d.inference procedure given =
      ⟨(bindAll c.inference true arguments).warnings, .ok (procedureCall procedure bound)⟩ := by
    rw [hinference, ofProcedure_of_namesArguments h.names, Reported.bind_ok _ h.binds]
    exact congrArg (Reported.mk · _) (List.append_nil _)
  have hannounced : k.protect (announce (ofProcedure d.inference procedure given)) d =
      .ok (procedureCall procedure bound)
        (d.announced (ofProcedure d.inference procedure given)) := by
    apply protect_of_ok
    rw [announce_underway hunderway (by rw [hrequest]; exact h.calm), hrequest]
    rfl
  have hrun : ∃ e, k.run (procedureCall procedure bound)
      (d.announced (ofProcedure d.inference procedure given)) = .ok () e ∧ IsLed k c found t e :=
    run_of_leads (hunderway.announced _) (procedureCall procedure bound) h.accepted h.leads
      hsupported
  obtain ⟨e, hrun, hled⟩ := hrun
  have hget : (get : Op σ (Connection σ)) d = .ok d d := rfl
  have hrecord : k.record e = .ok (k.recordIn e) e := rfl
  refine ⟨e, hled, ?_⟩
  unfold callProcedure
  rw [bind_of_ok _ hbegin, bind_of_ok _ hget, bind_of_ok _ hannounced, bind_of_ok _ hrun,
    bind_of_ok _ hrecord]
  split <;> rfl

omit [Session σ] in
/-- The warning about outputs is issued, and the result set is left as it is. -/
theorem warn_outputs {columns : List Column} (h : IsUnderway k c t d)
    (hstart : IsAtStart k columns d) (hcalm : c.escalates = false) :
    ∃ e, warn outputsUnsupported d = .ok () e ∧ Ready k c.escalates e ∧ IsAtStart k columns e ∧
      e.session = t ∧ timesWarned e = timesWarned c + 1 := by
  have hheard : (d.heard [.ofClient outputsUnsupported]).escalates = false :=
    h.ready.escalates.trans hcalm
  have hissued : issue outputsWarning (d.heard [.ofClient outputsUnsupported]) =
      .ok () ((d.heard [.ofClient outputsUnsupported]).warned [outputsWarning]) := by
    rw [issue_eq, hheard]
    rfl
  refine ⟨_, bind_eq_ok.2 ⟨_, _, rfl, hissued⟩, ⟨h.ready.has, h.ready.usable, h.ready.escalates⟩,
    ⟨hstart.state, hstart.description, hstart.names, hstart.conversions, hstart.rowNumber⟩,
    h.session, ?_⟩
  have hcount : (d.issued ++ [outputsWarning]).count outputsWarning = timesWarned d + 1 := by
    rw [List.count_append, List.count_singleton_self]
    rfl
  exact hcount.trans (congrArg (· + 1) h.quiet)

/-- What a call gives back, and where it leaves the connection. -/
def GivesBack (k : Cursor) (c : Connection σ) (given : Value) (arguments : List (String × Value))
    (found : Option (List Column)) (returned : Value) (c' : Connection σ) : Prop :=
  match found with
  | none =>
      Refills (Replaced (Session.outputs c'.session)) given returned ∧
        timesWarned c' = timesWarned c
  | some columns =>
      returned = given ∧
        k.IsUnread c.escalates (columns.map (Column.normalized (Session.version c'.session))) c' ∧
        (HasOutput arguments → timesWarned c' = timesWarned c + 1) ∧
        (¬ HasOutput arguments → timesWarned c' = timesWarned c)

/-- Without a result set the arguments are given back with the values that were returned. -/
theorem callProcedure_complete (hk : c.IsOpen k) (husable : c.fault? = none)
    (h : CallsWell c procedure given arguments bound none t) :
    ∃ returned c', k.callProcedure procedure given c = .ok returned c' ∧ c'.session = t ∧
      GivesBack k c given arguments none returned c' := by
  obtain ⟨d, hled, hcall⟩ := callProcedure_eq hk husable h nofun
  obtain ⟨hunderway, hstate⟩ := hled
  have hnot : ¬ (k.recordIn d).state = .hasResults := by
    rw [hstate]
    exact nofun
  rw [if_neg hnot] at hcall
  exact ⟨_, d, hcall, hunderway.session, refills_withOutputs h.names h.binds, hunderway.quiet⟩

/-- With a result set the arguments are given back as they are. -/
theorem callProcedure_set {columns : List Column} (hk : c.IsOpen k) (husable : c.fault? = none)
    (h : CallsWell c procedure given arguments bound (some columns) t)
    (hsupported : IsSupported (some columns)) :
    ∃ returned c', k.callProcedure procedure given c = .ok returned c' ∧ c'.session = t ∧
      GivesBack k c given arguments (some columns) returned c' := by
  obtain ⟨d, hled, hcall⟩ := callProcedure_eq hk husable h hsupported
  obtain ⟨hunderway, hstart⟩ := hled
  rw [if_pos hstart.state] at hcall
  by_cases houtput : HasOutput arguments
  · have hcalm : c.escalates = false :=
      h.unraised.resolve_right (not_or.2 ⟨nofun, not_not_intro houtput⟩)
    obtain ⟨e, hwarn, hready, hstill, hsession, htimes⟩ := warn_outputs hunderway hstart hcalm
    rw [if_pos ((any_output_iff h.binds).2 houtput), bind_of_ok _ hwarn] at hcall
    subst hsession
    exact ⟨_, e, hcall, rfl, rfl, hstill.isUnread hready, fun _ => htimes,
      fun hnone => absurd houtput hnone⟩
  · rw [if_neg (mt (any_output_iff h.binds).1 houtput)] at hcall
    obtain rfl : d.session = t := hunderway.session
    exact ⟨_, d, hcall, rfl, rfl, hstart.isUnread hunderway.ready,
      fun hsome => absurd hsome houtput, fun _ => hunderway.quiet⟩

/-! ## Refused arguments -/

/-- A request that cannot be made is reported, and the session is left alone. -/
theorem callProcedure_of_error (hk : c.IsOpen k) (husable : c.fault? = none) {e : Error}
    (herror : (ofProcedure c.inference procedure given).result = .error e)
    (hcalm : c.escalates = false ∨ (ofProcedure c.inference procedure given).warnings = []) :
    ∃ c', k.callProcedure procedure given c = .error e c' ∧ c'.session = c.session := by
  obtain ⟨d, hbegin, hunderway, hinference⟩ := begin_underway hk husable
  rw [← hinference] at herror hcalm
  have hannounced := announce_underway hunderway hcalm
  rw [herror] at hannounced
  have hget : (get : Op σ (Connection σ)) d = .ok d d := rfl
  have hprotected : ∃ c', k.protect (announce (ofProcedure d.inference procedure given)) d =
      .error e c' ∧ c'.session = c.session :=
    ⟨_, protect_of_error hannounced, hunderway.session⟩
  obtain ⟨c', hprotected, hsession⟩ := hprotected
  refine ⟨c', ?_, hsession⟩
  unfold callProcedure
  rw [bind_of_ok _ hbegin, bind_of_ok _ hget]
  exact bind_of_error _ hprotected

/-- With a call with which nothing is wrong, and whose result set is supported, the arguments are
given back: with the values that the server returned for outputs, or as they are if there is a
result set, which is then to be read. What is neither a tuple nor a dictionary is refused. So is a
key that is no name, once the entries before it are bound and no warning about them was raised. Then
the session is left alone. -/
theorem callProcedure_gives_back (hk : c.IsOpen k) (husable : c.fault? = none)
    (procedure : String) (given : Value) :
    (∀ arguments bound found t, CallsWell c procedure given arguments bound found t →
      IsSupported found →
      ∃ returned c', k.callProcedure procedure given c = .ok returned c' ∧ c'.session = t ∧
        GivesBack k c given arguments found returned c') ∧
    ((∀ items, given ≠ .tuple items) → (∀ entries, given ≠ .dictionary entries) →
      ∃ e c', k.callProcedure procedure given c = .error e c' ∧ c'.session = c.session ∧
        e.kind = .wrongType) ∧
    ∀ before key value after arguments bound,
      given = .dictionary (before ++ (key, value) :: after) →
      NamesArguments (.dictionary before) arguments →
      (bindAll c.inference true arguments).result = .ok bound →
      (c.escalates = false ∨ (bindAll c.inference true arguments).warnings = []) →
      (¬ ∃ name, IsName key name) →
      ∃ c', k.callProcedure procedure given c = .error (.interface (.invalidParameterName key)) c' ∧
        c'.session = c.session := by
  refine ⟨?_, ?_, ?_⟩
  · intro arguments bound found t h hsupported
    cases found with
    | none => exact callProcedure_complete hk husable h
    | some columns => exact callProcedure_set hk husable h hsupported
  · intro htuple hdictionary
    have hrequest : ofProcedure c.inference procedure given =
        .misuse (.parametersNotTupleOrDictionary given.kind) :=
      ofProcedure_of_other htuple hdictionary
    obtain ⟨c', hcall, hsession⟩ := callProcedure_of_error hk husable
      (congrArg (·.result) hrequest) (.inr (congrArg (·.warnings) hrequest))
    exact ⟨_, c', hcall, hsession, rfl⟩
  · rintro before key value after arguments bound rfl hnames hbound hcalm hkey
    have hrequest : ofProcedure c.inference procedure
          (.dictionary (before ++ (key, value) :: after)) =
        ⟨(bindAll c.inference true arguments).warnings,
          .error (.interface (.invalidParameterName key))⟩ :=
      ofProcedure_of_badName hnames hbound hkey
    exact callProcedure_of_error hk husable (congrArg (·.result) hrequest)
      (hcalm.imp_right (congrArg (·.warnings) hrequest).trans)

/-- A connection whose server has three procedures: one returns values for three places, one gives a
bit, and one gives a column of a type that the client does not read. -/
def calling : Connection ScriptedSession where
  session := {
    responses := [
      ("total", {
        results := [{ rowCount := some 3 }]
        outputs := [(0, .int 5), (1, .int 7), (4, .int 9)] }),
      ("report", {
        results := [{
          columns := some [{ name := "a", typeCode := .bit }]
          rows := [⟨[.int 1], {}⟩] }]
        outputs := [(0, .int 5)] }),
      ("audit", { results := [{ columns := some [{ name := "a", typeCode := .variant }] }] })] }
  inference := { version := .v74 }
  cursors := [{}]

theorem isOpen_calling : calling.IsOpen ⟨0⟩ := ⟨Nat.one_pos, fun hclosed => by cases hclosed⟩

/-- The items of that server's script bring no messages. -/
theorem answers_calling {α : Type} (a : α) :
    Answers calling.escalates (ScriptedSession.play {} a) a :=
  ScriptedSession.answers_play ⟨rfl, fun _ hm => absurd hm List.not_mem_nil, .inr rfl⟩ a

/-- A key without the sign. -/
theorem not_isName_b : ¬ ∃ name, IsName (.text "b") name := by
  rintro ⟨name, ⟨⟩, rest, -, hb⟩
  have hletters := congrArg (·.toList.head?) hb
  simp at hletters

/-- A dictionary of two arguments, of which the first is an output. -/
def firstOutput : Value :=
  .dictionary [(.text "@a", .parameter (.int 1) true), (.text "@b", .int 2)]

/-- Values are returned for the output and for two other places; the result set stays to be read,
and a warning says that the output has no value; a list is refused, and so is a key without sign. -/
theorem callProcedure_gives_back_calling :
    (∃ c', callProcedure ⟨0⟩ "total" firstOutput calling =
      .ok (.dictionary [(.text "@a", .int 5), (.text "@b", .int 2)]) c') ∧
    (∃ c', callProcedure ⟨0⟩ "report" (.tuple [.parameter (.int 1) true]) calling =
        .ok (.tuple [.parameter (.int 1) true]) c' ∧
      timesWarned c' = timesWarned calling + 1 ∧
      ∃ c'', fetchOne ⟨0⟩ c' = .ok (some ⟨["a"], [.bool true]⟩) c'') ∧
    (∃ e c', callProcedure ⟨0⟩ "total" (.list [.int 1]) calling = .error e c' ∧
      e.kind = .wrongType) ∧
    ∃ c', callProcedure ⟨0⟩ "total" (.dictionary [(.text "@a", .int 1), (.text "b", .int 2)])
      calling = .error (.interface (.invalidParameterName (.text "b"))) c' := by
  have hname : ∀ rest, rest ≠ "" → IsName (.text ("@" ++ rest)) ("@" ++ rest) :=
    fun rest hrest => ⟨rfl, rest, hrest, rfl⟩
  refine ⟨?_, ?_, ?_, ?_⟩
  · have hwell : CallsWell calling "total" firstOutput
        [("@a", .parameter (.int 1) true), ("@b", .int 2)]
        [⟨"@a", .tinyInt, .int 1, true, -1⟩, ⟨"@b", .tinyInt, .int 2, false, -1⟩] none _ := {
      names := .dictionary (.cons ⟨hname "a" (by decide), rfl⟩
        (.cons ⟨hname "b" (by decide), rfl⟩ .nil))
      binds := rfl
      accepted := answers_calling ()
      leads := .count (answers_calling (some [])) (.complete (ScriptedSession.answers_silent none))
      calm := .inl rfl
      unraised := .inl rfl }
    obtain ⟨returned, c', hcall, hsession, hrefills, -⟩ :=
      (callProcedure_gives_back isOpen_calling rfl _ _).1 _ _ _ _ hwell nofun
    rw [hsession] at hrefills
    obtain rfl := hrefills.unique (refills_withOutputs hwell.names hwell.binds)
    exact ⟨c', hcall⟩
  · have hwell : CallsWell calling "report" (.tuple [.parameter (.int 1) true])
        [("", .parameter (.int 1) true)] [⟨"", .tinyInt, .int 1, true, -1⟩]
        (some [{ name := "a", typeCode := .bit }]) _ := {
      names := .tuple _
      binds := rfl
      accepted := answers_calling ()
      leads := .set nofun (answers_calling _)
      calm := .inl rfl
      unraised := .inl rfl }
    have hsupported : IsSupported (some [{ name := "a", typeCode := .bit }]) := by
      rintro columns ⟨⟩ column hcolumn
      rw [List.mem_singleton.1 hcolumn]
      decide
    obtain ⟨returned, c', hcall, hsession, rfl, hreadable, hwarns, -⟩ :=
      (callProcedure_gives_back isOpen_calling rfl _ _).1 _ _ _ _ hwell hsupported
    refine ⟨c', hcall, hwarns ⟨_, List.mem_singleton_self _, _, rfl⟩, ?_⟩
    apply hreadable.row [.int 1] [.bool true]
    · rw [hsession]
      exact answers_calling (some [Value.int 1])
    · rw [hsession]
      rfl
  · obtain ⟨e, c', hcall, -, hkind⟩ :=
      (callProcedure_gives_back isOpen_calling rfl "total" (.list [.int 1])).2.1 nofun nofun
    exact ⟨e, c', hcall, hkind⟩
  · have hnames : NamesArguments (.dictionary [(.text "@a", .int 1)]) [("@a", .int 1)] :=
      .dictionary (.cons ⟨hname "a" (by decide), rfl⟩ .nil)
    obtain ⟨c', hcall, -⟩ := (callProcedure_gives_back isOpen_calling rfl "total" _).2.2
      _ _ (.int 2) [] _ _ rfl hnames rfl (.inl rfl) not_isName_b
    exact ⟨c', hcall⟩

/-- Nothing is wrong with a call without arguments that the session answers. But a column of the
result set is of a type that the client does not read, so the call fails. And of a dictionary in
which a number that is too big stands before a key that is no name, the number is reported. -/
theorem callProcedure_refusals :
    calling.IsOpen ⟨0⟩ ∧ calling.fault? = none ∧
    (∃ columns t, columns ≠ [] ∧ CallsWell calling "audit" (.tuple []) [] [] (some columns) t ∧
      ∃ e c', callProcedure ⟨0⟩ "audit" (.tuple []) calling = .error e c' ∧
        e.kind = .database .notSupported) ∧
    (¬ ∃ name, IsName (.text "b") name) ∧
    ∃ e c', callProcedure ⟨0⟩ "total"
        (.dictionary [(.text "@a", .int (2 ^ 70)), (.text "b", .int 1)]) calling = .error e c' ∧
      e.kind = .overflow := by
  have hfails : ∀ {procedure given kind}, (match callProcedure ⟨0⟩ procedure given calling with
      | .ok _ _ => false
      | .error e _ => decide (e.kind = kind)) = true →
      ∃ e c', callProcedure ⟨0⟩ procedure given calling = .error e c' ∧ e.kind = kind := by
    intro procedure given kind h
    split at h
    · cases h
    next e c' hcall => exact ⟨e, c', hcall, of_decide_eq_true h⟩
  have hwell : CallsWell calling "audit" (.tuple []) [] []
      (some [{ name := "a", typeCode := .variant }]) _ := {
    names := .tuple []
    binds := rfl
    accepted := answers_calling ()
    leads := .set nofun (answers_calling _)
    calm := .inl rfl
    unraised := .inl rfl }
  exact ⟨isOpen_calling, rfl, ⟨_, _, List.cons_ne_nil _ _, hwell, hfails (by decide +kernel)⟩, not_isName_b,
    hfails (by decide +kernel)⟩

end Cursor

end TdsClient
