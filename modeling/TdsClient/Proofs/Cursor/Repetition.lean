import TdsClient.Proofs.Binding.Reported
import TdsClient.Proofs.Cursor.Failure
import TdsClient.Proofs.Session.Submission

/-!
# Repeated statements

A statement is repeated for several items in two parts. First all items are
checked and bound, and if anything is wrong with any of them nothing is
submitted. Then the requests are submitted one after the other, each after
the response to the one before was read to its end. If one of them fails,
or the reading of its response does, none is submitted after it and the
cursor has no results.

## Main definitions

* `Accepts` — items that can be turned into requests.
* `StopsAt` — requests of which one fails.
* `RepeatsAll`, `BreaksOff` — what a repeated statement leaves.

## Main results

* `executeMany_all_or_nothing` — what repeating a statement does.
-/

namespace TdsClient.Cursor

open Connection Op

variable {σ : Type} [Session σ] {k : Cursor} {escalates : Bool}

/-- A cursor that can be used, over a session. -/
structure Stands (k : Cursor) (escalates : Bool) (s : σ) (c : Connection σ) : Prop where
  ready : Ready k escalates c
  session : c.session = s

/-! ## Reading to the end -/

section reading

variable {s : σ}

omit [Session σ] in
theorem Stands.changed {c : Connection σ} (h : Stands k escalates s c)
    (f : CursorRecord → CursorRecord) : Stands k escalates s (c.changed k f) :=
  ⟨h.ready.changed f, h.session⟩

omit [Session σ] in
/-- What a use of the session gives is what the session gave. -/
theorem gives_call {α : Type} (work : σ → Delivery α × σ) :
    Gives (Stands k escalates s) (call work)
      fun a c => (work s).1.result = .ok a ∧ Stands k escalates (work s).2 c := by
  refine gives_iff.2 fun c a c' hc hcalled => ?_
  obtain ⟨hready, rfl⟩ := hc
  obtain ⟨-, hresult, -, -, rfl⟩ := (call_eq_ok_iff _ _ _ _).1 hcalled
  exact ⟨hresult, hready.took _, rfl⟩

/-- How a cursor goes on: there is no further result, or one without columns, or one with. -/
theorem gives_advanceStep (b : Bool) :
    Gives (Stands k escalates s) (k.advanceStep b) fun r c =>
      Stands k escalates (Session.nextResult s).2 c ∧
      match r with
      | .done false => (Session.nextResult s).1.result = .ok none ∧
          (k.recordIn c).rowCount = Session.rowCount (Session.nextResult s).2
      | .yield _ => (Session.nextResult s).1.result = .ok (some [])
      | .done true => c.stateOf k = .hasResults ∧
          ∃ columns ≠ [], (Session.nextResult s).1.result = .ok (some columns) := by
  refine .bind (gives_call _) fun found => ?_
  cases found with
  | none =>
      refine .bind (Q := fun _ c => Stands k escalates (Session.nextResult s).2 c ∧
        (Session.nextResult s).1.result = .ok none ∧
          (k.recordIn c).rowCount = Session.rowCount (Session.nextResult s).2) ?_
        fun _ => .pure fun _ hc => hc
      refine .afterGet fun d => .modifying fun c hc => ?_
      obtain ⟨⟨hresult, hstands⟩, rfl⟩ := hc
      refine ⟨hstands.changed _, hresult, ?_⟩
      rw [recordIn_modifyCursor_self hstands.ready.has, hstands.session]
      rfl
  | some columns =>
      have hcounted : Gives (fun c => (Session.nextResult s).1.result = .ok (some columns) ∧
            Stands k escalates (Session.nextResult s).2 c) (k.takeRowCount : Op σ Unit)
          (fun _ c => (Session.nextResult s).1.result = .ok (some columns) ∧
            Stands k escalates (Session.nextResult s).2 c) :=
        .afterGet fun d => .modifying fun c hc => ⟨hc.1.1, hc.1.2.changed _⟩
      refine .bind hcounted fun _ => ?_
      cases columns with
      | nil => exact .pure fun _ hc => ⟨hc.2, hc.1⟩
      | cons column others =>
          refine .bind (Q := fun _ c => Stands k escalates (Session.nextResult s).2 c ∧
            c.stateOf k = .hasResults ∧
              (Session.nextResult s).1.result = .ok (some (column :: others))) ?_
            fun _ => .pure fun _ hc => ⟨hc.1, hc.2.1, _, List.cons_ne_nil _ _, hc.2.2⟩
          refine .afterGet fun d => .bind (Q := fun _ c =>
            (Session.nextResult s).1.result = .ok (some (column :: others)) ∧
              Stands k escalates (Session.nextResult s).2 c)
            (.ofExcept (fun _ _ _ hc => hc.1) fun _ _ _ _ => trivial) fun supported => ?_
          exact .modifying fun c hc => ⟨hc.2.changed _, stateOf_changed hc.2.ready.has _, hc.1⟩

/-- A cursor that goes on gets to a result set or to the end of the response. -/
theorem gives_advance :
    Gives (Stands k escalates s) (k.advance : Op σ Bool) fun found c =>
      ∃ t, Stands k escalates t c ∧
        if found then c.stateOf k = .hasResults ∧ ∀ u v, RowsRead t u → ReadOut u v → ReadOut s v
        else ReadOut s t ∧ (k.recordIn c).rowCount = Session.rowCount t := by
  have hstart : ∀ c, Stands k escalates s c →
      ∃ t, Stands k escalates t c ∧ ∀ v, ReadOut t v → ReadOut s v :=
    fun c hc => ⟨s, hc, fun _ h => h⟩
  refine Meets.strengthen ?_ hstart
  refine .looping (I := fun _ c => ∃ t, Stands k escalates t c ∧ ∀ v, ReadOut t v → ReadOut s v)
    (fun b c hc => ?_) false
  obtain ⟨t, hstands, hread⟩ := hc
  refine (gives_advanceStep b).weaken (fun _ hd => hd) (fun r d hd => ?_) (fun _ _ hd => hd)
    c hstands
  obtain ⟨hnext, hstep⟩ := hd
  match r with
  | .done false => exact ⟨_, hnext, hread _ (.last hstep.1), hstep.2⟩
  | .yield _ => exact ⟨_, hnext, fun v hv => hread v (.count hstep hv)⟩
  | .done true =>
      obtain ⟨hstate, columns, hcolumns, hresult⟩ := hstep
      exact ⟨_, hnext, hstate, fun u v hrows hrest => hread v (.set hcolumns hresult hrows hrest)⟩

/-- A row is read for a result set, or there is none. -/
theorem gives_readNext :
    Gives (fun c => Stands k escalates s c ∧ c.stateOf k = .hasResults)
      (k.readRow : Op σ (Option (List Value))) fun row c =>
      Stands k escalates (Session.fetchRow s).2 c ∧
      match row with
      | none => (Session.fetchRow s).1.result = .ok none
      | some _ => c.stateOf k = .hasResults ∧
          ∃ values, (Session.fetchRow s).1.result = .ok (some values) := by
  refine gives_iff.2 fun c row c' hc hread => ?_
  obtain ⟨⟨hready, rfl⟩, hstate⟩ := hc
  have htook : Stands k escalates (Session.fetchRow c.session).2
      (c.took (Session.fetchRow c.session)) := ⟨hready.took _, rfl⟩
  rcases readRow_eq_ok hread with ⟨hother, -, -⟩ | ⟨-, hresult, rfl, rfl⟩ |
    ⟨raw, values, -, -, hresult, -, rfl, rfl⟩
  · exact absurd hstate hother
  · exact ⟨htook.changed _, hresult⟩
  · refine ⟨htook.changed _, ?_, raw, hresult⟩
    rw [stateOf_changed htook.ready.has]
    exact hstate

/-- As long as all rows are wanted, a row is read after the others. -/
theorem gives_readAllStep (rows : List (List Value)) :
    Gives (fun c => Stands k escalates s c ∧ c.stateOf k = .hasResults)
      (k.readRowsStep (fun _ => .ok true) rows) fun r c =>
      Stands k escalates (Session.fetchRow s).2 c ∧
      match r with
      | .done _ => (Session.fetchRow s).1.result = .ok none
      | .yield _ => c.stateOf k = .hasResults ∧
          ∃ values, (Session.fetchRow s).1.result = .ok (some values) := by
  refine .bind (Q := fun more c => more = true ∧ Stands k escalates s c ∧
    c.stateOf k = .hasResults) (.ofExcept (fun more c hmore hc => ?_) fun _ _ _ _ => trivial)
    fun more => ?_
  · cases hmore
    exact ⟨rfl, hc⟩
  · cases more with
    | false => exact fun _ hc => absurd hc.1 (by decide)
    | true =>
        refine .bind (gives_readNext.strengthen fun _ hc => hc.2) fun row => ?_
        cases row with
        | none => exact .pure fun _ hc => hc
        | some values => exact .pure fun _ hc => hc

/-- The rows of a result set that are left are read. -/
theorem gives_discardRows :
    Gives (fun c => Stands k escalates s c ∧ c.stateOf k = .hasResults)
      (k.discardRows : Op σ Unit)
      fun _ c => ∃ t, Stands k escalates t c ∧ RowsRead s t := by
  have hstart : ∀ c, Stands k escalates s c ∧ c.stateOf k = .hasResults →
      ∃ t, (Stands k escalates t c ∧ c.stateOf k = .hasResults) ∧
        ∀ u, RowsRead t u → RowsRead s u := fun c hc => ⟨s, hc, fun _ h => h⟩
  have hrows : Gives (fun c => Stands k escalates s c ∧ c.stateOf k = .hasResults)
      (k.readRows fun _ => .ok true : Op σ (List (List Value)))
      fun _ c => ∃ t, Stands k escalates t c ∧ RowsRead s t := by
    refine Meets.strengthen (.looping (I := fun _ c => ∃ t, (Stands k escalates t c ∧
      c.stateOf k = .hasResults) ∧ ∀ u, RowsRead t u → RowsRead s u) (fun rows c hc => ?_) [])
      hstart
    obtain ⟨t, hstands, hread⟩ := hc
    refine (gives_readAllStep rows).weaken (fun _ hd => hd) (fun r d hd => ?_) (fun _ _ hd => hd)
      c hstands
    obtain ⟨hnext, hstep⟩ := hd
    cases r with
    | done rows => exact ⟨_, hnext, hread _ (.last hstep)⟩
    | yield rows =>
        obtain ⟨hstate, values, hresult⟩ := hstep
        exact ⟨_, ⟨hnext, hstate⟩, fun u hu => hread u (.row hresult hu)⟩
  exact .bind hrows fun _ => .pure fun _ hc => hc

/-- A response whose results are left is read to its end, and then the session's row count is the
cursor's. -/
theorem gives_discardResults :
    Gives (Stands k escalates s) (k.discardResults : Op σ Unit) fun _ c =>
      ∃ t, Stands k escalates t c ∧ ReadOut s t ∧
        (k.recordIn c).rowCount = Session.rowCount t := by
  have hstart : ∀ c, Stands k escalates s c →
      ∃ t, Stands k escalates t c ∧ ∀ v, ReadOut t v → ReadOut s v :=
    fun c hc => ⟨s, hc, fun _ h => h⟩
  refine Meets.strengthen ?_ hstart
  refine .looping (I := fun _ c => ∃ t, Stands k escalates t c ∧ ∀ v, ReadOut t v → ReadOut s v)
    (fun _ c hc => ?_) ()
  obtain ⟨t, hstands, hread⟩ := hc
  refine Meets.bind gives_advance (fun found d hd => ?_) c hstands
  obtain ⟨u, hnext, hfound⟩ := hd
  cases found with
  | false => exact ⟨u, hnext, hread _ hfound.1, hfound.2⟩
  | true =>
      obtain ⟨hstate, hset⟩ := hfound
      refine Meets.bind gives_discardRows (fun _ => .pure fun _ hc => ?_) d ⟨hnext, hstate⟩
      obtain ⟨v, hlast, hrows⟩ := hc
      exact ⟨v, hlast, fun w hw => hread w (hset v w hrows hw)⟩

/-- What only reads leaves a session that was only read from. -/
theorem onlyReads_of_uses {α : Type} {op : Op σ α}
    (h : Uses ⟨fun call => call.isRead = true, fun _ => False⟩ op)
    (c : Connection σ) : OnlyReads c.session (op.after c).session := by
  obtain ⟨⟨calls, hcalls, hsession⟩, -⟩ := h.after c
  exact ⟨calls, hcalls, hsession⟩

/-- Wherever reading a response ends, nothing was submitted. -/
theorem meets_discardResults :
    Meets (Stands k escalates s) (k.discardResults : Op σ Unit)
      (fun _ c => ∃ t, Stands k escalates t c ∧ ReadOut s t ∧
        (k.recordIn c).rowCount = Session.rowCount t)
      fun _ c => OnlyReads s c.session := by
  intro c hc
  have hends := gives_discardResults c hc
  have hreads := onlyReads_of_uses (uses_discardResults (fun _ hcall => hcall) k) c
  rw [hc.session] at hreads
  unfold Op.after at hreads
  cases hdiscard : (k.discardResults : Op σ Unit) c with
  | ok u d =>
      rw [hdiscard] at hends
      exact hends
  | error e d =>
      rw [hdiscard] at hreads
      exact hreads

/-! ## Submitting -/

/-- A request is submitted once, whether it is accepted or not. -/
theorem meets_submit (r : Request) :
    Meets (Stands k escalates s) (k.submit r : Op σ Unit)
      (fun _ c => (ask r s).1.result = .ok () ∧ Stands k escalates (ask r s).2 c)
      fun _ c => c.session = (ask r s).2 := by
  have hsubmit : Meets (Stands k escalates s) (submitFor (some k.index) r : Op σ Unit)
      (fun _ c => (ask r s).1.result = .ok () ∧ Stands k escalates (ask r s).2 c)
      fun _ c => c.session = (ask r s).2 := by
    intro c hc
    have hnoted : Stands k escalates s (c.noted (some k.index) r) :=
      ⟨⟨hc.ready.has, hc.ready.usable, hc.ready.escalates⟩, hc.session⟩
    have hcall : submitFor (some k.index) r c = call (ask r) (c.noted (some k.index) r) :=
      bind_of_ok _ (checkUsable_of_usable hc.ready.usable)
    have hgives := gives_call (ask r) _ hnoted
    have hafter := after_submitFor hc.ready.usable (some k.index) r
    rw [turn_use, hc.session] at hafter
    unfold Op.after at hafter
    rw [hcall] at hafter ⊢
    cases hcalled : call (ask r) (c.noted (some k.index) r) with
    | ok u d =>
        rw [hcalled] at hgives
        exact hgives
    | error e d =>
        rw [hcalled] at hafter
        exact hafter
  refine .bind hsubmit fun _ => .afterGet fun d => .modifying fun c hc => ?_
  exact ⟨hc.1.1, hc.1.2.changed _⟩

/-- Submits a request and reads its response to the end. -/
def runOut (k : Cursor) (r : Request) : Op σ Unit := do
  k.submit r
  k.discardResults

/-- A request is submitted once, and then its response is read until it ends or something fails. -/
theorem meets_runOut (r : Request) :
    Meets (Stands k escalates s) (k.runOut r : Op σ Unit)
      (fun _ c => (ask r s).1.result = .ok () ∧ ∃ t, Stands k escalates t c ∧
        ReadOut (ask r s).2 t ∧ (k.recordIn c).rowCount = Session.rowCount t)
      fun _ c => OnlyReads (ask r s).2 c.session := by
  have hsubmit : Meets (Stands k escalates s) (k.submit r : Op σ Unit)
      (fun _ c => (ask r s).1.result = .ok () ∧ Stands k escalates (ask r s).2 c)
      fun _ c => OnlyReads (ask r s).2 c.session :=
    (meets_submit r).failing fun _ c hc => hc ▸ .refl _
  refine .bind hsubmit fun _ c hc => ?_
  exact meets_discardResults.weaken (fun _ hd => hd) (fun _ _ hd => ⟨hc.1, hd⟩)
    (fun _ _ hd => hd) c hc.2

/-- The first request is submitted and its response read before the others. -/
theorem runAll_cons (total : Int) (reliable : Bool) (r : Request) (rest : List Request)
    (c : Connection σ) : ∃ reliable', k.runAll total reliable (r :: rest) c =
      (k.runOut r >>= fun _ => k.record >>= fun counted =>
        k.runAll (addCount total counted.rowCount) reliable' rest) c := by
  unfold runOut
  cases hsubmit : k.submit r c with
  | error e d =>
      refine ⟨reliable, (bind_of_error _ hsubmit).trans ?_⟩
      rw [bind_assoc]
      exact (bind_of_error _ hsubmit).symm
  | ok u d =>
      refine ⟨reliable && (k.recordIn d).rowCountReliable, (bind_of_ok _ hsubmit).trans ?_⟩
      rw [bind_assoc, bind_of_ok _ hsubmit]
      rfl

/-- Of several requests one is the last that was submitted: those before it were answered, and what
was raised was raised by its submission, or else after it, when its response was read. -/
structure StopsAt (k : Cursor) (requests done : List Request) (r : Request) (s : σ) (e : Error)
    (c : Connection σ) : Prop where
  split : ∃ rest, requests = done ++ r :: rest
  failed : ∃ counts d, AnswersAll done s counts d.session ∧ k.runOut r d = .error e c ∧
    OnlyReads (ask r d.session).2 c.session

/-- The last request that was submitted comes after one that was answered. -/
theorem StopsAt.cons {first r : Request} {rest done : List Request} {t : σ} {e : Error}
    {c : Connection σ} (hsubmit : (ask first s).1.result = .ok ())
    (hread : ReadOut (ask first s).2 t) (h : k.StopsAt rest done r t e c) :
    k.StopsAt (first :: rest) (first :: done) r s e c := by
  obtain ⟨⟨later, hsplit⟩, counts, d, hanswers, hraised⟩ := h
  exact ⟨⟨later, congrArg (first :: ·) hsplit⟩, _, d, .cons hsubmit hread hanswers, hraised⟩

/-- Requests are submitted one after the other, and each response is read to its end before the next
request; if something fails nothing is submitted any more. -/
theorem meets_runAll (total : Int) (reliable : Bool) (requests : List Request) :
    Meets (Stands k escalates s) (k.runAll total reliable requests : Op σ (Int × Bool))
      (fun result c => ∃ counts t, Stands k escalates t c ∧ AnswersAll requests s counts t ∧
        result.1 = counts.foldl addCount total)
      fun e c => ∃ done r, k.StopsAt requests done r s e c := by
  induction requests generalizing s total reliable with
  | nil => exact .pure fun c hc => ⟨[], s, hc, .nil, rfl⟩
  | cons r rest ih =>
      intro c hc
      obtain ⟨reliable', hcons⟩ := runAll_cons (k := k) total reliable r rest c
      rw [hcons]
      have hout := meets_runOut r c hc
      cases hrun : (k.runOut r : Op σ Unit) c with
      | error e d =>
          rw [hrun] at hout
          rw [bind_of_error _ hrun]
          obtain rfl := hc.session
          exact ⟨[], r, ⟨rest, rfl⟩, [], c, .nil, hrun, hout⟩
      | ok u d =>
          rw [hrun] at hout
          rw [bind_of_ok _ hrun]
          obtain ⟨haccepted, t, hstands, hread, hcount⟩ := hout
          show Ends _ _ (k.runAll (addCount total (k.recordIn d).rowCount) reliable' rest d)
          rw [hcount]
          refine (ih _ _).weaken (fun _ hd => hd) (fun result c' hends => ?_)
            (fun e c' hends => ?_) d hstands
          · obtain ⟨counts, u, hlast, hanswers, htotal⟩ := hends
            exact ⟨_, u, hlast, .cons haccepted hread hanswers, htotal⟩
          · obtain ⟨done, last, hstops⟩ := hends
            exact ⟨r :: done, last, hstops.cons haccepted hread⟩

end reading

/-- Adding counts up gives their total. -/
theorem foldl_addCount (counts : List Int) (total : Int) :
    counts.foldl addCount total =
      if (counts.filter (0 ≤ ·)).isEmpty then total
      else max total 0 + (counts.filter (0 ≤ ·)).sum := by
  induction counts generalizing total with
  | nil => rfl
  | cons count rest ih =>
      rw [List.foldl_cons, ih]
      unfold addCount
      by_cases hcount : 0 ≤ count
      · rw [if_pos hcount, List.filter_cons_of_pos (by simpa using hcount), List.isEmpty_cons,
          if_neg Bool.false_ne_true, List.sum_cons]
        split
        next hnone =>
          rw [List.isEmpty_iff.1 hnone, List.sum_nil]
          omega
        next => omega
      · rw [if_neg hcount, List.filter_cons_of_neg (by simpa using hcount)]

theorem foldl_addCount_eq_totalCount (counts : List Int) :
    counts.foldl addCount (-1) = totalCount counts := by
  rw [foldl_addCount, totalCount]
  split
  · rfl
  · omega

/-! ## Preparing -/

/-- Items that can be turned into requests for a statement: each is a container for the style of
markers, all have the same number of arguments, each is bound, and no warning is raised. -/
structure Prepares (c : Connection σ) (sql : String) (items : List Value)
    (requests : List Request) : Prop where
  sized : ∃ size, ∀ item ∈ items, itemSize? c.style item = some size
  bound : List.Forall₂ (fun item r =>
    (Request.ofStatement c.inference c.style false sql item).result = .ok r) items requests
  calm : c.escalates = false ∨
    ∀ item ∈ items, (Request.ofStatement c.inference c.style false sql item).warnings = []

/-- A cursor that can be used is given items that can be turned into requests. -/
structure Accepts (k : Cursor) (sql : String) (given : Value) (requests : List Request)
    (c : Connection σ) : Prop where
  opened : c.stateOf k ≠ .closed
  usable : c.fault? = none
  prepared : ∃ items, given.items? = some items ∧ Prepares c sql items requests

/-- Begins a statement and turns items into requests. -/
def prepare (k : Cursor) (sql : String) (given : Value) : Op σ (List Request) := do
  k.begin
  match given.items? with
  | none => throw (.misuse .unsuitable)
  | some items =>
    let c ← get
    Op.ofExcept (checkItems c.style 0 none items)
    announce (items.mapM (Request.ofStatement c.inference c.style false sql))

/-- Submits all requests. -/
def submitAll (k : Cursor) (requests : List Request) : Op σ Unit := do
  let (rowCount, rowCountReliable) ← k.protect (k.runAll (-1) true requests)
  k.change fun record => { record with rowCount, rowCountReliable }

theorem executeMany_eq (k : Cursor) (sql : String) (given : Value) :
    (k.executeMany sql given : Op σ Unit) = k.prepare sql given >>= k.submitAll := by
  unfold executeMany prepare submitAll
  rw [bind_assoc]
  congr 1
  funext _
  cases given.items? with
  | none => rfl
  | some items => simp only [bind_assoc]

/-- All items have a size, and the one that is expected if there is one. -/
theorem checkItems_eq_ok_iff (style : ParamStyle) (number : Nat) (expected : Option Nat)
    (items : List Value) :
    checkItems style number expected items = .ok () ↔
      ∃ size, expected.getD size = size ∧ ∀ item ∈ items, itemSize? style item = some size := by
  induction items generalizing number expected with
  | nil =>
      refine iff_of_true rfl ⟨expected.getD 0, ?_, nofun⟩
      cases expected <;> rfl
  | cons item rest ih =>
      rw [checkItems]
      cases hsize : itemSize? style item with
      | none =>
          refine iff_of_false nofun ?_
          rintro ⟨size, -, hall⟩
          have hfirst := hall item (List.mem_cons_self ..)
          rw [hsize] at hfirst
          cases hfirst
      | some size =>
          dsimp only
          by_cases hsame : size = expected.getD size
          · rw [if_pos hsame, ih]
            constructor
            · rintro ⟨size', hsize', hrest⟩
              obtain rfl : size = size' := hsize'
              exact ⟨size, hsame.symm, List.forall_mem_cons.2 ⟨hsize, hrest⟩⟩
            · rintro ⟨size', -, hall⟩
              obtain ⟨hfirst, hrest⟩ := List.forall_mem_cons.1 hall
              obtain rfl := Option.some.inj (hsize.symm.trans hfirst)
              exact ⟨size, rfl, hrest⟩
          · rw [if_neg hsame]
            refine iff_of_false nofun ?_
            rintro ⟨size', hexpected, hall⟩
            obtain rfl := Option.some.inj
              (hsize.symm.trans (hall item (List.mem_cons_self ..)))
            exact hsame hexpected.symm

/-- Items are bound with warnings that are not raised if each of them is. -/
theorem mapM_calm_iff {α β : Type} {f : α → Reported β} {items : List α} {results : List β}
    {escalates : Bool} :
    ((items.mapM f).result = .ok results ∧ (escalates = false ∨ (items.mapM f).warnings = [])) ↔
      List.Forall₂ (fun a b => (f a).result = .ok b) items results ∧
        (escalates = false ∨ ∀ a ∈ items, (f a).warnings = []) := by
  constructor
  · rintro ⟨hresult, hcalm⟩
    have hall := Reported.forall₂_of_mapM hresult
    rw [Reported.mapM_of_forall₂ hall] at hcalm
    exact ⟨hall, hcalm.imp_right List.flatMap_eq_nil_iff.1⟩
  · rintro ⟨hall, hcalm⟩
    rw [Reported.mapM_of_forall₂ hall]
    exact ⟨rfl, hcalm.imp_right List.flatMap_eq_nil_iff.2⟩

/-- A statement begins with a cursor and a connection that can be used. -/
theorem begin_eq_ok_iff {c c' : Connection σ} {u : Unit} :
    k.begin c = .ok u c' ↔ c.stateOf k ≠ .closed ∧ c.fault? = none ∧
      c' = (c.begun (some k.index)).changed k (·.begin) := by
  constructor
  · intro h
    obtain ⟨_, d, hchecked, -⟩ := bind_eq_ok.1 h
    obtain ⟨rfl, hstate, husable⟩ := (gives_iff.1 (walks_check (P := fun d => d = c) k).gives)
      c () d rfl hchecked
    rw [begin_of_usable hstate husable] at h
    cases h
    exact ⟨hstate, husable, rfl⟩
  · rintro ⟨hstate, husable, rfl⟩
    exact begin_of_usable hstate husable

/-- A connection on which a statement of a cursor has begun is the same otherwise. -/
structure Begins (k : Cursor) (c d : Connection σ) : Prop where
  begun : k.HasBegun d
  stands : Stands k c.escalates c.session d
  style : d.style = c.style
  inference : d.inference = c.inference

omit [Session σ] in
/-- A statement that begins leaves the session alone. -/
theorem begins_begun {c : Connection σ} (hk : c.Has k) (husable : c.fault? = none) :
    k.Begins c ((c.begun (some k.index)).changed k (·.begin)) := by
  have hhas : (c.begun (some k.index)).Has k := (has_begun c _ k).2 hk
  obtain ⟨cursors, hbegun⟩ := begun_eq c (some k.index)
  rw [hbegun] at hhas ⊢
  have hhas' := (has_modifyCursor _ k.index CursorRecord.begin k).2 hhas
  exact ⟨⟨hhas', rfl, stateOf_changed hhas _⟩, ⟨⟨hhas', husable, rfl⟩, rfl⟩, rfl, rfl⟩

omit [Session σ] in
/-- So does what is announced then. -/
theorem Begins.announced {α : Type} {c d : Connection σ} (h : k.Begins c d) (x : Reported α) :
    k.Begins c (d.announced x) where
  begun := steady_hasBegun k d _ rfl rfl (Journal.lastSubmitter_append_heard _ _) h.begun
  stands := ⟨⟨h.begun.1, h.stands.ready.usable, h.stands.ready.escalates⟩, h.stands.session⟩
  style := h.style
  inference := h.inference

omit [Session σ] in
/-- Items are checked and bound without a raised warning exactly if they can be turned into
requests. -/
theorem prepares_iff {c d : Connection σ} (h : k.Begins c d) {sql : String} {items : List Value}
    {requests : List Request} :
    Prepares c sql items requests ↔ checkItems d.style 0 none items = .ok () ∧
      (items.mapM (Request.ofStatement d.inference d.style false sql)).result = .ok requests ∧
      (d.escalates = false ∨
        (items.mapM (Request.ofStatement d.inference d.style false sql)).warnings = []) := by
  rw [checkItems_eq_ok_iff, mapM_calm_iff, h.style, h.inference, h.stands.ready.escalates]
  constructor
  · rintro ⟨⟨size, hsized⟩, hbound, hcalm⟩
    exact ⟨⟨size, rfl, hsized⟩, hbound, hcalm⟩
  · rintro ⟨⟨size, -, hsized⟩, hbound, hcalm⟩
    exact ⟨⟨size, hsized⟩, hbound, hcalm⟩

/-- Exactly items that can be turned into requests are prepared. -/
theorem prepare_eq_ok_iff {c c' : Connection σ} (hk : c.Has k) {sql : String} {given : Value}
    {requests : List Request} :
    k.prepare sql given c = .ok requests c' ↔ c.stateOf k ≠ .closed ∧ c.fault? = none ∧
      ∃ items, given.items? = some items ∧ Prepares c sql items requests ∧
        c' = ((c.begun (some k.index)).changed k (·.begin)).announced
          (items.mapM (Request.ofStatement c.inference c.style false sql)) := by
  constructor
  · intro h
    obtain ⟨_, d, hbegan, hrest⟩ := bind_eq_ok.1 h
    obtain ⟨hstate, husable, rfl⟩ := begin_eq_ok_iff.1 hbegan
    have hbegins := begins_begun hk husable
    generalize (c.begun (some k.index)).changed k (·.begin) = d at hbegins hrest ⊢
    refine ⟨hstate, husable, ?_⟩
    cases hitems : given.items? with
    | none =>
        rw [hitems] at hrest
        cases hrest
    | some items =>
        rw [hitems] at hrest
        obtain ⟨_, _, hlook, hrest⟩ := bind_eq_ok.1 hrest
        cases hlook
        obtain ⟨_, e, hchecked, hannounced⟩ := bind_eq_ok.1 hrest
        obtain ⟨hsized, rfl⟩ := ofExcept_eq_ok_iff.1 hchecked
        obtain ⟨hresult, hcalm, rfl⟩ := (announce_eq_ok_iff ..).1 hannounced
        rw [hbegins.style, hbegins.inference]
        exact ⟨items, rfl, (prepares_iff hbegins).2 ⟨hsized, hresult, hcalm⟩, rfl⟩
  · rintro ⟨hstate, husable, items, hitems, hprepares, rfl⟩
    have hbegins := begins_begun hk husable
    have hbegan : k.begin c = .ok () ((c.begun (some k.index)).changed k (·.begin)) :=
      begin_eq_ok_iff.2 ⟨hstate, husable, rfl⟩
    generalize (c.begun (some k.index)).changed k (·.begin) = d at hbegins hbegan ⊢
    obtain ⟨hsized, hresult, hcalm⟩ := (prepares_iff hbegins).1 hprepares
    refine bind_eq_ok.2 ⟨(), d, hbegan, ?_⟩
    rw [hitems, ← hbegins.style, ← hbegins.inference]
    refine bind_eq_ok.2 ⟨d, d, rfl, bind_eq_ok.2 ⟨(), d, ofExcept_eq_ok_iff.2 ⟨hsized, rfl⟩, ?_⟩⟩
    exact (announce_eq_ok_iff ..).2 ⟨hresult, hcalm, rfl⟩

/-- What is prepared could be turned into requests. -/
theorem accepts_of_prepare {c c' : Connection σ} (hk : c.Has k) {sql : String} {given : Value}
    {requests : List Request} (h : k.prepare sql given c = .ok requests c') :
    k.Accepts sql given requests c := by
  obtain ⟨hstate, husable, items, hitems, hprepares, -⟩ := (prepare_eq_ok_iff hk).1 h
  exact ⟨hstate, husable, items, hitems, hprepares⟩

/-- What can be turned into requests is prepared, and then the statement has begun. -/
theorem prepare_of_accepts {c : Connection σ} (hk : c.Has k) {sql : String} {given : Value}
    {requests : List Request} (h : k.Accepts sql given requests c) :
    ∃ d, k.prepare sql given c = .ok requests d ∧ k.Begins c d := by
  obtain ⟨hstate, husable, items, hitems, hprepares⟩ := h
  exact ⟨_, (prepare_eq_ok_iff hk).2 ⟨hstate, husable, items, hitems, hprepares, rfl⟩,
    (begins_begun hk husable).announced _⟩

/-- Preparing does not use the session, whatever comes of it. -/
theorem session_prepare (k : Cursor) (sql : String) (given : Value) (c : Connection σ) :
    ((k.prepare sql given).after c).session = c.session := by
  have huses : Uses ⟨fun _ => False, fun _ => False⟩ (k.prepare sql given : Op σ _) := by
    refine .bind (uses_begin k) fun _ => ?_
    cases given.items? with
    | none => exact Uses.throwing _
    | some items =>
        refine Uses.afterGet fun d => .bind (Uses.ofExcept _).uses fun _ => ?_
        exact (uses_announce _).uses
  obtain ⟨⟨calls, hcalls, hsession⟩, -⟩ := huses.after c
  obtain rfl : calls = [] := List.eq_nil_iff_forall_not_mem.2 hcalls
  exact hsession

/-! ## Repeating -/

omit [Session σ] in
/-- A cursor that loses its results has none. -/
theorem isBlank_reset {c : Connection σ} (hk : c.Has k) :
    k.IsBlank (c.changed k (·.reset .unused)) := by
  have hrecord : k.recordIn (c.changed k (·.reset .unused)) = (k.recordIn c).reset .unused :=
    recordIn_modifyCursor_self hk _
  refine ⟨congrArg (·.state) hrecord, ?_, ?_, ?_, ?_⟩ <;> rw [hrecord] <;> rfl

/-- Submitting all requests ends with all of them answered, or at one of them. -/
theorem meets_submitAll (s : σ) (requests : List Request) :
    Meets (fun c => Stands k escalates s c ∧ k.HasBegun c) (k.submitAll requests : Op σ Unit)
      (fun _ c => ∃ counts, AnswersAll requests s counts c.session ∧
        (k.recordIn c).rowCount = totalCount counts)
      fun e c => ∃ done r d, k.StopsAt requests done r s e d ∧ c.session = d.session ∧
        k.IsBlank c := by
  have hrun : Meets (fun c => Stands k escalates s c ∧ k.HasBegun c)
      (k.runAll (-1) true requests : Op σ (Int × Bool))
      (fun result c => ∃ counts t, Stands k escalates t c ∧ AnswersAll requests s counts t ∧
        result.1 = counts.foldl addCount (-1))
      fun e c => (∃ done r, k.StopsAt requests done r s e c) ∧ k.IsHolder c :=
    ((meets_runAll (-1) true requests).and (walks_runAll k (-1) true requests).meets).weaken
      (fun _ hc => ⟨hc.1, hc.2.isIdle⟩) (fun _ _ hc => hc.1) fun _ _ hc => hc
  refine .bind (.catching hrun fun e => ?_) fun result => .modifying fun c hc => ?_
  · refine .bind (Q := fun _ c => ∃ done r d, k.StopsAt requests done r s e d ∧
      c.session = d.session ∧ k.IsBlank c) (.modifying fun c hc => ?_) fun _ => .throwing
        fun _ hc => hc
    obtain ⟨⟨done, r, hstops⟩, hholder⟩ := hc
    exact ⟨done, r, c, hstops, rfl, isBlank_reset hholder.1.1⟩
  · obtain ⟨counts, t, hstands, hanswers, htotal⟩ := hc
    refine ⟨counts, hstands.session ▸ hanswers, ?_⟩
    rw [recordIn_modifyCursor_self hstands.ready.has]
    exact htotal.trans (foldl_addCount_eq_totalCount counts)

/-- A statement was executed once for each request: they were submitted in order, each after the
response to the one before was read to its end, and nothing else was submitted. The row count is
the total. -/
structure RepeatsAll (k : Cursor) (requests : List Request) (c c' : Connection (Recorded σ)) :
    Prop where
  answered : ∃ counts, AnswersAll requests c.session counts c'.session ∧
    (k.recordIn c').rowCount = totalCount counts
  submissions : c'.session.submissions = c.session.submissions ++ requests.map Request.use

/-- A statement was executed for some of the requests, the last of which failed: only these were
submitted, and there are no results. -/
structure BreaksOff (k : Cursor) (requests : List Request) (e : Error)
    (c c' : Connection (Recorded σ)) : Prop where
  stopped : ∃ done r d, k.StopsAt requests done r c.session e d ∧ c'.session = d.session ∧
    c'.session.submissions = c.session.submissions ++ (done ++ [r]).map Request.use
  blank : k.IsBlank c'

/-- Up to the request that failed all are submitted. -/
theorem StopsAt.submissions {requests done : List Request} {r : Request} {s : Recorded σ}
    {e : Error} {c : Connection (Recorded σ)} (h : k.StopsAt requests done r s e c) :
    c.session.submissions = s.submissions ++ (done ++ [r]).map Request.use := by
  obtain ⟨-, counts, d, hanswers, -, hreads⟩ := h
  rw [hreads.submissions, Recorded.submissions_ask, hanswers.submissions, List.append_assoc,
    List.map_append]
  rfl

section outcomes

variable {c : Connection (Recorded σ)} {sql : String} {given : Value}

/-- With items that cannot all be turned into requests the session is not used. -/
theorem executeMany_of_refused (hk : c.Has k) (h : ¬∃ requests, k.Accepts sql given requests c) :
    ∃ e c', k.executeMany sql given c = .error e c' ∧ c'.session = c.session := by
  have hsession := session_prepare k sql given c
  unfold Op.after at hsession
  rw [executeMany_eq]
  cases hprepared : k.prepare sql given c with
  | ok requests d => exact absurd ⟨requests, accepts_of_prepare hk hprepared⟩ h
  | error e d =>
      rw [hprepared] at hsession
      exact ⟨e, d, bind_of_error _ hprepared, hsession⟩

/-- Requests are submitted until one of them fails. -/
theorem executeMany_of_accepts (hk : c.Has k) {requests : List Request}
    (h : k.Accepts sql given requests c) :
    (∃ c', k.executeMany sql given c = .ok () c' ∧ k.RepeatsAll requests c c') ∨
      ∃ e c', k.executeMany sql given c = .error e c' ∧ k.BreaksOff requests e c c' := by
  obtain ⟨d, hprepared, hbegins⟩ := prepare_of_accepts hk h
  have hends := meets_submitAll c.session requests d ⟨hbegins.stands, hbegins.begun⟩
  rw [executeMany_eq, bind_of_ok k.submitAll hprepared]
  cases hsubmitted : k.submitAll requests d with
  | ok u c' =>
      rw [hsubmitted] at hends
      obtain ⟨counts, hanswers, hcount⟩ := hends
      exact .inl ⟨c', rfl, ⟨counts, hanswers, hcount⟩, hanswers.submissions⟩
  | error e c' =>
      rw [hsubmitted] at hends
      obtain ⟨done, r, d, hstops, hsession, hblank⟩ := hends
      refine .inr ⟨e, c', rfl, ⟨done, r, d, hstops, hsession, ?_⟩, hblank⟩
      rw [hsession, hstops.submissions]

/-- What was submitted are the requests for some of the items, from the first one on. -/
theorem submissions_executeMany (hk : c.Has k) (sql : String) {items : List Value}
    (hgiven : given.items? = some items) :
    ∃ tried requests, tried <+: items ∧
      List.Forall₂ (fun item r =>
        (Request.ofStatement c.inference c.style false sql item).result = .ok r) tried requests ∧
      ((k.executeMany sql given).after c).session.submissions =
        c.session.submissions ++ requests.map Request.use := by
  unfold Op.after
  by_cases h : ∃ requests, k.Accepts sql given requests c
  · obtain ⟨requests, haccepts⟩ := h
    obtain ⟨items', hitems, hprepares⟩ := haccepts.prepared
    obtain rfl : items = items' := Option.some.inj (hgiven.symm.trans hitems)
    rcases executeMany_of_accepts hk haccepts with ⟨c', hdone, hall⟩ | ⟨e, c', hfailed, hbreaks⟩
    · rw [hdone]
      exact ⟨items, requests, List.prefix_refl _, hprepares.bound, hall.submissions⟩
    · rw [hfailed]
      obtain ⟨done, r, d, hstops, -, hsubmissions⟩ := hbreaks.stopped
      obtain ⟨rest, hsplit⟩ := hstops.split
      have hbound := hprepares.bound
      rw [hsplit, List.append_cons] at hbound
      refine ⟨items.take (done ++ [r]).length, done ++ [r], List.take_prefix _ _, ?_, hsubmissions⟩
      have htaken := List.forall₂_take (done ++ [r]).length hbound
      rwa [List.take_left] at htaken
  · obtain ⟨e, c', hfailed, hsession⟩ := executeMany_of_refused hk h
    rw [hfailed]
    exact ⟨[], [], List.nil_prefix, .nil, by simp [hsession]⟩

/-- A statement that is repeated fails before the session is used if the items cannot all be turned
into requests. Otherwise these requests are submitted, one after the other; if one of them fails, no
further one. -/
theorem executeMany_all_or_nothing (hk : c.Has k) (sql : String) (given : Value) :
    ((¬∃ requests, k.Accepts sql given requests c) →
      ∃ e c', k.executeMany sql given c = .error e c' ∧ c'.session = c.session) ∧
    ∀ requests, k.Accepts sql given requests c →
      (∃ c', k.executeMany sql given c = .ok () c' ∧ k.RepeatsAll requests c c') ∨
        ∃ e c', k.executeMany sql given c = .error e c' ∧ k.BreaksOff requests e c c' :=
  ⟨executeMany_of_refused hk, fun _ haccepts => executeMany_of_accepts hk haccepts⟩

end outcomes

/-- A server that counts rows for one table and does not know another one. -/
def insertingServer : ScriptedSession where
  responses := [
    ("INSERT INTO t VALUES (@param0)",
      { results := [{ rowCount := some 5 }, { rowCount := some 2 }] }),
    ("INSERT INTO u VALUES (@param0)",
      { playback := { failure := some (.rejected "no such table" .programming) } })]

/-- A connection to that server, with one cursor. -/
def inserting : Connection (Recorded ScriptedSession) :=
  (ConnectionOptions.connection { autocommit := .bool true, ansiDefaults := .bool false }
    ⟨insertingServer, []⟩).runAll [.openCursor]

theorem has_inserting : inserting.Has ⟨0⟩ := show 0 < List.length _ by decide +kernel

/-- Two items. -/
def twoItems : Value := .list [.tuple [.int 1], .tuple [.int 2]]

/-- Of two items that are inserted the rows are counted; something else among the items keeps all
from being inserted; and if the table is not known the second item is not tried. -/
theorem executeMany_all_or_nothing_inserting :
    (∃ c' requests, executeMany ⟨0⟩ "INSERT INTO t VALUES (:0)" twoItems inserting = .ok () c' ∧
      RepeatsAll ⟨0⟩ requests inserting c' ∧ c'.session.submissions.length = 2 ∧
      (recordIn ⟨0⟩ c').rowCount = 4) ∧
    (∃ e c', executeMany ⟨0⟩ "INSERT INTO t VALUES (:0)" (.list [.tuple [.int 1], .int 2])
      inserting = .error e c' ∧ c'.session = inserting.session) ∧
    ∃ e c' requests, executeMany ⟨0⟩ "INSERT INTO u VALUES (:0)" twoItems inserting = .error e c' ∧
      BreaksOff ⟨0⟩ requests e inserting c' ∧ c'.session.submissions.length = 1 := by
  have haccepts : ∀ sql, (prepare ⟨0⟩ sql twoItems).returns inserting = true →
      ∃ requests, Accepts ⟨0⟩ sql twoItems requests inserting := by
    intro sql hprepared
    unfold returns at hprepared
    split at hprepared
    next requests d hresult => exact ⟨requests, accepts_of_prepare has_inserting hresult⟩
    · cases hprepared
  refine ⟨?_, ?_, ?_⟩
  · obtain ⟨requests, hrequests⟩ := haccepts "INSERT INTO t VALUES (:0)" (by decide +kernel)
    have hends : (match executeMany ⟨0⟩ "INSERT INTO t VALUES (:0)" twoItems inserting with
        | .ok _ c' => decide (c'.session.submissions.length = 2 ∧ (recordIn ⟨0⟩ c').rowCount = 4)
        | .error _ _ => false) = true := by decide +kernel
    rcases (executeMany_all_or_nothing has_inserting _ _).2 requests hrequests with
      ⟨c', hdone, hall⟩ | ⟨e, c', hfailed, -⟩
    · rw [hdone] at hends
      exact ⟨c', requests, hdone, hall, of_decide_eq_true hends⟩
    · rw [hfailed] at hends
      cases hends
  · refine (executeMany_all_or_nothing has_inserting _ _).1 ?_
    rintro ⟨requests, hrequests⟩
    obtain ⟨items, hitems, hprepares⟩ := hrequests.prepared
    cases hitems
    obtain ⟨size, hsized⟩ := hprepares.sized
    have hnone : itemSize? inserting.style (.int 2) = none := by decide +kernel
    have hsize := hsized (.int 2) (by simp)
    rw [hnone] at hsize
    cases hsize
  · obtain ⟨requests, hrequests⟩ := haccepts "INSERT INTO u VALUES (:0)" (by decide +kernel)
    have hends : (match executeMany ⟨0⟩ "INSERT INTO u VALUES (:0)" twoItems inserting with
        | .ok _ _ => false
        | .error _ c' => decide (c'.session.submissions.length = 1)) = true := by decide +kernel
    rcases (executeMany_all_or_nothing has_inserting _ _).2 requests hrequests with
      ⟨c', hdone, -⟩ | ⟨e, c', hfailed, hbreaks⟩
    · rw [hdone] at hends
      cases hends
    · rw [hfailed] at hends
      exact ⟨e, c', requests, hfailed, hbreaks, of_decide_eq_true hends⟩

end TdsClient.Cursor
