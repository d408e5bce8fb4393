import TdsClient.Proofs.Cursor.Showing

/-!
# Going through a response

A program that executes a statement and then fetches rows and goes on to
further result sets as it likes is told what is in the response, no more and
no less. The cursor shows the first result set once the statement was
executed, and every step leads from what it shows to what it shows next.

## Main definitions

* `replies` — what a program is told in a run.

## Main results

* `replies_of_shows` — runs from a cursor that shows a view.
* `traverses_response` — runs that begin with a statement.
-/

namespace TdsClient.Cursor

open Connection Op

variable {σ α : Type} [Session σ] {k : Cursor} {escalates : Bool} {version : Version}
  {Holds : σ → Option (List (List Value)) → List ServerResult → Prop} {c : Connection σ}

/-! ## Steps -/

/-- What a program is told when it does something with a cursor, and the connection afterwards. -/
def told (k : Cursor) (a : CursorAction) (c : Connection σ) :
    Except Error Answer × Connection σ :=
  match a.perform k c with
  | .ok answer c' => (.ok answer, c')
  | .error e c' => (.error e, c')

theorem told_of_ok {a : CursorAction} {answer : Answer} {c' : Connection σ}
    (h : a.perform k c = .ok answer c') : k.told a c = (.ok answer, c') := by
  unfold told
  rw [h]

theorem told_of_error {a : CursorAction} {e : Error} {c' : Connection σ}
    (h : a.perform k c = .error e c') : k.told a c = (.error e, c') := by
  unfold told
  rw [h]

omit [Session σ] in
/-- A usable cursor without columns has no results. -/
theorem checkResults_of_noColumns (hstate : c.stateOf k ≠ .closed) (husable : c.fault? = none)
    (hdescription : (k.recordIn c).description = none) :
    k.checkResults c = .error (.interface .noResults) c := by
  show EStateM.bind k.check _ c = _
  unfold EStateM.bind
  rw [check_of_usable hstate husable]
  show (if (k.recordIn c).description.isNone then _ else _ : Op σ Unit) c = _
  rw [hdescription]
  rfl

/-- A usable cursor that reads no response has no next result set. -/
theorem perform_nextSet_of_idle (hstate : c.stateOf k ≠ .closed) (husable : c.fault? = none)
    (hidle : isReading (c.stateOf k) = false) :
    CursorAction.nextSet.perform k c = .ok .nothing c := by
  have hnext : k.nextSet c = .ok false c := by
    refine bind_eq_ok.2 ⟨_, _, check_of_usable hstate husable, bind_eq_ok.2 ⟨_, _, rfl, ?_⟩⟩
    rw [show isReading (k.recordIn c).state = false from hidle]
    rfl
  exact bind_eq_ok.2 ⟨_, _, hnext, rfl⟩

/-- Without a result set no fetch is begun. -/
theorem perform_of_refused {e : Error} (h : k.checkResults c = .error e c) (f : Fetch) :
    f.action.perform k c = .error e c := by
  cases f with
  | one => exact bind_of_error _ (bind_of_error _ h)
  | many n => exact bind_of_error _ (bind_of_error _ h)
  | all => exact bind_of_error _ (bind_of_error _ h)
  | iterate limit => exact bind_of_error _ (bind_of_error _ h)

theorem read_description (hready : Ready k escalates c)
    (hstate : (k.recordIn c).state ≠ .closed) :
    (CursorAction.read .description).perform k c =
      .ok (((k.recordIn c).description.map .description).getD .nothing) c :=
  bind_eq_ok.2 ⟨_, _, hready.check hstate, rfl⟩

theorem read_rowNumber (hready : Ready k escalates c) (hstate : (k.recordIn c).state ≠ .closed) :
    (CursorAction.read .rowNumber).perform k c =
      .ok (.number? ((k.recordIn c).nextRow?.map Int.ofNat)) c :=
  bind_eq_ok.2 ⟨_, _, hready.check hstate, rfl⟩

/-- At a result set every step succeeds, as the view has it. -/
theorem perform_onSet (hserves : Serves escalates version Holds) {set : ResultSet}
    {returned : Nat} {numbered : Bool} {later : List ResultSet}
    (h : Shows k escalates version Holds c (.onSet set returned numbered later)) (step : Step) :
    ∃ answer c', step.action.perform k c = .ok answer c' ∧
      (View.onSet set returned numbered later).reply step = .ok answer ∧
      Shows k escalates version Holds c'
        ((View.onSet set returned numbered later).after step) := by
  cases step with
  | fetch f =>
      obtain ⟨c', hfetch, hshows⟩ := perform_fetch hserves h f
      exact ⟨_, c', hfetch, rfl, hshows⟩
  | nextSet =>
      obtain ⟨c', hnext, hshows⟩ := nextSet_of_onSet hserves h
      cases later with
      | nil => exact ⟨.nothing, c', bind_eq_ok.2 ⟨_, _, hnext, rfl⟩, rfl, hshows⟩
      | cons next later =>
          exact ⟨.value (.bool true), c', bind_eq_ok.2 ⟨_, _, hnext, rfl⟩, rfl, hshows⟩
  | description =>
      refine ⟨.description set.description, c, ?_, rfl, h⟩
      cases h with
      | onSet hready hat _ _ =>
          rw [Step.action, read_description hready hat.not_closed, hat.description]
          rfl
  | rowNumber =>
      refine ⟨if numbered then .value (.int returned) else .nothing, c, ?_, ?_, h⟩
      · cases h with
        | onSet hready hat _ _ =>
            rw [Step.action, read_rowNumber hready hat.not_closed]
            unfold CursorRecord.nextRow?
            rw [hat.description, hat.rowNumber]
            cases numbered with
            | true => rfl
            | false => rfl
      · cases numbered with
        | true => rfl
        | false => rfl

/-- At the end of the response fetches are refused, and there is nothing else to tell. -/
theorem told_of_ended (h : Shows k escalates version Holds c .ended) (step : Step) :
    k.told step.action c = (View.ended.reply step, c) := by
  cases h with
  | ended hready hstate hdescription =>
      have hopen : (k.recordIn c).state ≠ .closed := by
        rw [hstate]
        exact nofun
      cases step with
      | fetch f =>
          have hrefused := checkResults_of_noColumns hopen hready.usable hdescription
          exact told_of_error (perform_of_refused hrefused f)
      | nextSet =>
          have hidle : isReading (c.stateOf k) = false := by
            rw [stateOf, hstate]
            rfl
          exact told_of_ok (perform_nextSet_of_idle hopen hready.usable hidle)
      | description =>
          rw [Step.action, told_of_ok (read_description hready hopen), hdescription]
          rfl
      | rowNumber =>
          rw [Step.action, told_of_ok (read_rowNumber hready hopen)]
          unfold CursorRecord.nextRow?
          rw [hdescription]
          rfl

/-- Whatever the view, a step tells what the view has and leads where it does. -/
theorem told_of_shows (hserves : Serves escalates version Holds) {view : View}
    (h : Shows k escalates version Holds c view) (step : Step) :
    (k.told step.action c).1 = view.reply step ∧
      Shows k escalates version Holds (k.told step.action c).2 (view.after step) := by
  cases view with
  | onSet set returned numbered later =>
      obtain ⟨answer, c', hperform, hreply, hshows⟩ := perform_onSet hserves h step
      rw [told_of_ok hperform, hreply]
      exact ⟨rfl, hshows⟩
  | ended =>
      rw [told_of_ended h step]
      have hafter : View.ended.after step = .ended := by
        cases step with
        | fetch f => rfl
        | nextSet => rfl
        | description => rfl
        | rowNumber => rfl
      rw [hafter]
      exact ⟨rfl, h⟩

/-! ## Runs -/

/-- What a program is told at steps one after the other. -/
def replies (k : Cursor) : List Step → Connection σ → List (Except Error Answer)
  | [], _ => []
  | step :: rest, c => (k.told step.action c).1 :: k.replies rest (k.told step.action c).2

/-- The connection after steps. -/
def afterSteps (k : Cursor) (steps : List Step) (c : Connection σ) : Connection σ :=
  steps.foldl (fun c step => (k.told step.action c).2) c

/-- In every run a program is told what the views have that it goes through. -/
theorem replies_of_shows (hserves : Serves escalates version Holds) {view : View}
    (h : Shows k escalates version Holds c view) (steps : List Step) :
    k.replies steps c = view.replies steps ∧
      Shows k escalates version Holds (k.afterSteps steps c) (view.afterAll steps) := by
  induction steps generalizing view c with
  | nil => exact ⟨rfl, h⟩
  | cons step rest ih =>
      obtain ⟨hreply, hshows⟩ := told_of_shows hserves h step
      obtain ⟨hreplies, hafter⟩ := ih hshows
      refine ⟨?_, hafter⟩
      show (k.told step.action c).1 :: k.replies rest _ = view.reply step :: View.replies _ rest
      rw [hreply, hreplies]

/-! ## Executing -/

/-- The connection as it was, but for what belongs to the statement that began. -/
structure Began (k : Cursor) (c d : Connection σ) : Prop where
  ready : Ready k c.escalates d
  session : d.session = c.session
  inference : d.inference = c.inference
  style : d.style = c.style

omit [Session σ] in
theorem begin_of_ready (h : Ready k escalates c) (hstate : (k.recordIn c).state ≠ .closed) :
    ∃ d, k.begin c = .ok () d ∧ Began k c d := by
  obtain ⟨cursors, hbegun⟩ := begun_eq c (some k.index)
  have hhas : (c.begun (some k.index)).Has k := (has_begun c _ k).2 h.has
  refine ⟨_, begin_of_usable hstate h.usable, ?_⟩
  refine ⟨⟨(has_modifyCursor _ k.index _ k).2 hhas, ?_, ?_⟩, ?_, ?_, ?_⟩
  · rw [hbegun]
    exact h.usable
  · rw [hbegun]
    rfl
  · rw [hbegun]
    rfl
  · rw [hbegun]
    rfl
  · rw [hbegun]
    rfl

omit [Session σ] in
/-- Warnings that are not raised do not stand in the way of a statement. -/
theorem warnAll_of_began {c₀ : Connection σ} (texts : List String)
    (hcalm : c₀.escalates = false ∨ texts = []) (h : Began k c₀ c) :
    ∃ d, warnAll texts c = .ok () d ∧ Began k c₀ d := by
  rw [← h.ready.escalates] at hcalm
  exact ⟨_, warnAll_of_calm texts hcalm,
    ⟨⟨h.ready.has, h.ready.usable, h.ready.escalates⟩, h.session, h.inference, h.style⟩⟩

/-- A request that is accepted is noted, and the session used. -/
theorem submit_of_answers (hready : Ready k escalates c) {request : Request}
    (hanswers : Answers escalates (ask request c.session).1 ()) :
    ∃ f, k.submit request c =
      .ok () (((c.noted (some k.index) request).took (ask request c.session)).changed k f) := by
  have hnoted : Ready k escalates (c.noted (some k.index) request) :=
    ⟨hready.has, hready.usable, hready.escalates⟩
  exact ⟨_, bind_eq_ok.2 ⟨_, _, bind_eq_ok.2 ⟨_, _, checkUsable_of_usable hready.usable,
    bind_eq_ok.2 ⟨_, _, rfl, hnoted.call hanswers⟩⟩, bind_eq_ok.2 ⟨_, _, rfl, rfl⟩⟩⟩

/-- A request that is submitted leaves the cursor before the first result. -/
theorem submit_of_ready (hready : Ready k escalates c) {request : Request}
    (hanswers : Answers escalates (ask request c.session).1 ()) :
    ∃ d, k.submit request c = .ok () d ∧ Ready k escalates d ∧
      d.session = (ask request c.session).2 := by
  have hnoted : Ready k escalates (c.noted (some k.index) request) :=
    ⟨hready.has, hready.usable, hready.escalates⟩
  obtain ⟨f, hsubmit⟩ := submit_of_answers hready hanswers
  exact ⟨_, hsubmit, (hnoted.took _).changed _, rfl⟩

/-- A statement is executed, and its cursor shows the first of its result sets. -/
theorem execute_of_serves (hserves : Serves c.escalates version Holds) (hk : c.IsOpen k)
    (husable : c.fault? = none) {sql : String} {parameters : Value} {request : Request}
    (hrequest : (Request.ofStatement c.inference c.style true sql parameters).result = .ok request)
    (hcalm : c.escalates = false ∨
      (Request.ofStatement c.inference c.style true sql parameters).warnings = [])
    (hanswers : Answers c.escalates (ask request c.session).1 ()) {results : List ServerResult}
    (hresults : Holds (ask request c.session).2 none results) {shown : List (Option ResultSet)}
    (hshown : List.Forall₂ (Presents version) results shown) :
    ∃ c', k.execute sql parameters c = .ok () c' ∧
      Shows k c.escalates version Holds c' (.first true shown.reduceOption) := by
  have hstart : Ready k c.escalates c := ⟨hk.1, husable, rfl⟩
  obtain ⟨d, hbegin, hd⟩ := begin_of_ready hstart hk.2
  have hmodelled : Request.ofStatement d.inference d.style true sql parameters =
      Request.ofStatement c.inference c.style true sql parameters := by
    rw [hd.inference, hd.style]
  have hwarnings : c.escalates = false ∨ (Request.ofStatement d.inference d.style true sql
      parameters).warnings.map BindingWarning.text = [] := by
    rw [hmodelled]
    exact hcalm.imp_right fun hnone => by rw [hnone]; rfl
  obtain ⟨e, hwarned, he⟩ := warnAll_of_began _ hwarnings hd
  have hannounced : announce (Request.ofStatement d.inference d.style true sql parameters) d =
      .ok request e := by
    refine bind_eq_ok.2 ⟨_, _, hwarned, ?_⟩
    rw [hmodelled, hrequest]
    rfl
  rw [← he.session] at hanswers hresults
  obtain ⟨f, hsubmit, hready, hsession⟩ := submit_of_ready he.ready hanswers
  rw [← hsession] at hresults
  obtain ⟨found, c', hadvance, _, hshows⟩ := succeeds_iff.1 (succeeds_advance hserves _) f
    ⟨none, rfl, hready, results, shown, hresults, hshown, rfl⟩
  refine ⟨c', bind_eq_ok.2 ⟨_, _, hbegin, bind_eq_ok.2 ⟨_, _, rfl, ?_⟩⟩, hshows⟩
  refine bind_eq_ok.2 ⟨_, _, protect_of_ok hannounced, protect_of_ok ?_⟩
  exact bind_eq_ok.2 ⟨_, _, hsubmit, bind_eq_ok.2 ⟨_, _, hadvance, rfl⟩⟩

/-- Whatever a program does after it executed a statement, it is told what is in the response: the
result sets that have columns, one after the other, and of each the rows in order, as many as it
fetches. The rows that are fetched of a result set are its first ones, each once, and the row number
counts them. -/
theorem traverses_response (hserves : Serves c.escalates version Holds) (hk : c.IsOpen k)
    (husable : c.fault? = none) {sql : String} {parameters : Value} {request : Request}
    (hrequest : (Request.ofStatement c.inference c.style true sql parameters).result = .ok request)
    (hcalm : c.escalates = false ∨
      (Request.ofStatement c.inference c.style true sql parameters).warnings = [])
    (hanswers : Answers c.escalates (ask request c.session).1 ()) {results : List ServerResult}
    (hresults : Holds (ask request c.session).2 none results) {shown : List (Option ResultSet)}
    (hshown : List.Forall₂ (Presents version) results shown) :
    ∃ c', k.execute sql parameters c = .ok () c' ∧ ∀ steps,
      k.replies steps c' = (View.first true shown.reduceOption).replies steps ∧
      ∀ set numbered later (fetches : List Fetch),
        (View.first true shown.reduceOption).afterAll steps = .onSet set 0 numbered later →
        ∃ rows,
          rows = (k.replies (fetches.map .fetch) (k.afterSteps steps c')).flatMap View.rowsIn ∧
          rows <+: set.rows ∧
          k.replies [.rowNumber] (k.afterSteps (fetches.map .fetch) (k.afterSteps steps c')) =
            [.ok (if numbered || 0 < rows.length then .value (.int rows.length)
              else .nothing)] := by
  obtain ⟨c', hexecute, hshows⟩ := execute_of_serves hserves hk husable hrequest hcalm hanswers
    hresults hshown
  refine ⟨c', hexecute, ?_⟩
  intro steps
  obtain ⟨hreplies, hafter⟩ := replies_of_shows hserves hshows steps
  refine ⟨hreplies, ?_⟩
  intro set numbered later fetches hview
  rw [hview] at hafter
  obtain ⟨hfetched, hbehind⟩ := replies_of_shows hserves hafter (fetches.map .fetch)
  obtain ⟨total, htotal, hend⟩ := View.afterAll_fetches set 0 numbered later fetches
  have hprefix := View.rows_fetches set 0 numbered later fetches
  rw [hend, Nat.zero_add] at hbehind
  obtain ⟨hnumber, _⟩ := replies_of_shows hserves hbehind [.rowNumber]
  refine ⟨_, rfl, ?_, ?_⟩
  · rw [hfetched]
    exact hprefix
  · rw [hnumber, hfetched, ← htotal]
    cases hnumbered : (numbered || decide (0 < total)) with
    | true => rfl
    | false => rfl

/-- A connection whose server answers a query by a row count, two bits, and a further bit. -/
def querying : Connection ScriptedSession where
  session := {
    responses := [("SELECT", {
      results := [
        { rowCount := some 4 },
        { columns := some [{ name := "a", typeCode := .bit }]
          rows := [⟨[.int 1], {}⟩, ⟨[.int 0], {}⟩] },
        { columns := some [{ name := "b", typeCode := .bit }]
          rows := [⟨[.null], {}⟩] }] })] }
  inference := { version := .v74 }
  cursors := [{}]

/-- The first result set is left after one of its rows, and the second is read to its end. -/
theorem traverses_response_querying :
    ∃ c', Cursor.execute ⟨0⟩ "SELECT" .null querying = .ok () c' ∧
      Cursor.replies ⟨0⟩ [.rowNumber, .fetch (.many 1), .nextSet, .rowNumber, .fetch .all,
          .rowNumber, .nextSet, .fetch .one] c' =
        [.ok (.value (.int 0)), .ok (.rowList (.ofValues ["a"] [[.bool true]])),
          .ok (.value (.bool true)), .ok .nothing, .ok (.rowList (.ofValues ["b"] [[.null]])),
          .ok (.value (.int 1)), .ok .nothing, .error (.interface .noResults)] := by
  have hcalm : ∀ {p : Playback}, p = {} → p.IsCalm querying.escalates := by
    rintro p rfl
    exact ⟨rfl, nofun, .inr rfl⟩
  have hanswers : Answers querying.escalates (ask { sql := "SELECT" } querying.session).1 () :=
    ScriptedSession.answers_play (hcalm rfl) ()
  have hresults : (ask { sql := "SELECT" } querying.session).2.Awaits querying.escalates .v74 none
      [.count, .set [{ name := "a", typeCode := .bit }] [[.int 1], [.int 0]],
        .set [{ name := "b", typeCode := .bit }] [[.null]]] := by
    refine ⟨rfl, rfl, fun r hr => ?_, rfl, nofun, nofun⟩
    have hdefault : r.playback = {} ∧ ∀ row ∈ r.rows, row.playback = {} := by
      rcases List.mem_cons.1 hr with rfl | hr
      · exact ⟨rfl, nofun⟩
      · rcases List.mem_cons.1 hr with rfl | hr
        · exact ⟨rfl, by simp⟩
        · rw [List.mem_singleton.1 hr]
          exact ⟨rfl, by simp⟩
    exact ⟨hcalm hdefault.1, fun row hrow => hcalm (hdefault.2 row hrow)⟩
  have hshown : List.Forall₂ (Presents .v74)
      [.count, .set [{ name := "a", typeCode := .bit }] [[.int 1], [.int 0]],
        .set [{ name := "b", typeCode := .bit }] [[.null]]] _ :=
    .cons .count (.cons (.set (List.cons_ne_nil _ _) rfl (.cons rfl (.cons rfl .nil)))
      (.cons (.set (List.cons_ne_nil _ _) rfl (.cons rfl .nil)) .nil))
  have hopen : querying.IsOpen ⟨0⟩ := ⟨Nat.one_pos, fun hclosed => by cases hclosed⟩
  have hrequest : (Request.ofStatement querying.inference querying.style true "SELECT"
      .null).result = .ok { sql := "SELECT" } := rfl
  obtain ⟨c', hexecute, hrun⟩ := traverses_response
    (ScriptedSession.serves_awaits querying.escalates .v74) hopen rfl hrequest (.inl rfl) hanswers
    hresults hshown
  exact ⟨c', hexecute, (hrun _).1⟩

end TdsClient.Cursor
