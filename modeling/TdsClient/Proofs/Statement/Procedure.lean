import TdsClient.Cursor.Execution
import TdsClient.Proofs.Statement.Call

/-!
# Arguments of a procedure

A procedure is called with a tuple of arguments, which have no names, or with
a dictionary, whose keys are the names. Each argument becomes one parameter of
the request, at the place that it has in the container. The server answers
with values for places, whether or not there are outputs there. In the
container that is given back, an argument that is an output has the value for
its place, if there is one, and every other argument is as it was.

## Main definitions

* `Request.NamesArguments` — a container and its arguments under their names.
* `Request.Reports` — the value that was returned for a place.
* `Cursor.Refills` — a container of the same form with other values.
* `Cursor.Replaced` — what becomes of an argument.

## Main results

* `ofProcedure_of_namesArguments` — the request for a procedure.
* `ofProcedure_of_badName`, `ofProcedure_of_other` — arguments that are refused.
* `refills_withOutputs` — the container that is given back.
-/

namespace TdsClient

namespace Request

/-! ## Names -/

/-- A key is a name: a text of an at sign and something behind it. -/
def IsName (key : Value) (name : String) : Prop :=
  key = .text name ∧ ∃ rest, rest ≠ "" ∧ name = "@" ++ rest

theorem atSign_isPrefixOf_iff (s : String) :
    "@".isPrefixOf s ∧ 2 ≤ s.length ↔ ∃ rest, rest ≠ "" ∧ s = "@" ++ rest := by
  have hfront : "@".isPrefixOf s = true ↔ "@".toList <+: s.toList := by
    simp [String.isPrefixOf]
  rw [hfront]
  constructor
  · rintro ⟨⟨rest, hrest⟩, hlength⟩
    have hs : s = "@" ++ String.ofList rest := by
      rw [← String.toList_inj, ← hrest]
      simp
    refine ⟨String.ofList rest, ?_, hs⟩
    intro hempty
    rw [hs, hempty] at hlength
    exact absurd hlength (by decide)
  · rintro ⟨rest, hrest, rfl⟩
    refine ⟨⟨rest.toList, String.toList_append.symm⟩, ?_⟩
    have hlength : rest.length ≠ 0 := by
      intro hzero
      apply hrest
      rw [← String.toList_inj]
      exact List.length_eq_zero_iff.1 (by simpa using hzero)
    rw [String.length_append]
    show 2 ≤ 1 + rest.length
    omega

/-- The names of a procedure's parameters. -/
theorem parameterName_eq_ok_iff (key : Value) (name : String) :
    parameterName key = .ok name ↔ IsName key name := by
  unfold parameterName IsName
  cases key with
  | text s =>
      dsimp only
      by_cases hs : "@".isPrefixOf s ∧ 2 ≤ s.length
      · rw [if_pos hs]
        constructor
        · intro h
          cases h
          exact ⟨rfl, (atSign_isPrefixOf_iff name).1 hs⟩
        · rintro ⟨h, -⟩
          cases h
          rfl
      · rw [if_neg hs]
        refine iff_of_false nofun ?_
        rintro ⟨h, hname⟩
        cases h
        exact hs ((atSign_isPrefixOf_iff name).2 hname)
  | _ => exact iff_of_false nofun (fun h => nomatch h.1)

/-- Any other key is refused. -/
theorem parameterName_of_not_isName {key : Value} (h : ¬ ∃ name, IsName key name) :
    parameterName key = .error (.interface (.invalidParameterName key)) := by
  cases hname : parameterName key with
  | ok name => exact absurd ⟨name, (parameterName_eq_ok_iff key name).1 hname⟩ h
  | error e =>
      unfold parameterName at hname
      split at hname
      · split at hname
        · cases hname
        · exact hname.symm
      · exact hname.symm

/-! ## Requests -/

/-- The arguments in a container, in order, under the names that they have there. -/
inductive NamesArguments : Value → List (String × Value) → Prop
  | tuple (items : List Value) : NamesArguments (.tuple items) (items.map fun item => ("", item))
  | dictionary {entries : List (Value × Value)} {arguments : List (String × Value)}
      (h : List.Forall₂ (fun e a => IsName e.1 a.1 ∧ e.2 = a.2) entries arguments) :
      NamesArguments (.dictionary entries) arguments

/-- The call of a procedure with parameters. -/
def procedureCall (procedure : String) (bound : List BoundParameter) : Request where
  sql := procedure
  procedure := some procedure
  parameters := bound

/-- Items that are treated alike, one by one, are treated alike together. -/
theorem mapM_congr_forall₂ {α β γ : Type} {f : α → Reported γ} {g : β → Reported γ}
    {items : List α} {others : List β} (h : List.Forall₂ (fun a b => f a = g b) items others) :
    items.mapM f = others.mapM g := by
  induction h with
  | nil => rfl
  | cons hfirst _ ih => rw [List.mapM_cons, List.mapM_cons, hfirst, ih]

variable {i : Inference} {procedure : String} {given : Value} {arguments : List (String × Value)}

theorem bindNamed_of_names {entries : List (Value × Value)}
    (h : List.Forall₂ (fun e a => IsName e.1 a.1 ∧ e.2 = a.2) entries arguments) :
    bindNamed i entries = bindAll i true arguments := by
  apply mapM_congr_forall₂
  apply h.imp
  rintro ⟨key, value⟩ ⟨name, argument⟩ ⟨hname, rfl⟩
  show Reported.ofExcept (parameterName key) >>= _ = _
  rw [(parameterName_eq_ok_iff key name).2 hname]
  rfl

/-- The request for a procedure has its arguments, bound in order under their names. -/
theorem ofProcedure_of_namesArguments (h : NamesArguments given arguments) :
    ofProcedure i procedure given =
      bindAll i true arguments >>= fun bound => pure (procedureCall procedure bound) := by
  cases h with
  | tuple items => rfl
  | dictionary hnames =>
      rw [← bindNamed_of_names hnames]
      rfl

/-- Of a dictionary whose first entries can be bound, and whose next key is no name, the key is
reported. -/
theorem ofProcedure_of_badName {before after : List (Value × Value)} {key value : Value}
    {bound : List BoundParameter} (hnames : NamesArguments (.dictionary before) arguments)
    (hbound : (bindAll i true arguments).result = .ok bound) (hkey : ¬ ∃ name, IsName key name) :
    ofProcedure i procedure (.dictionary (before ++ (key, value) :: after)) =
      ⟨(bindAll i true arguments).warnings, .error (.interface (.invalidParameterName key))⟩ := by
  cases hnames with
  | dictionary hnames =>
      have hfirst : bindNamed i before = bindAll i true arguments := bindNamed_of_names hnames
      have hnext : bindNamed i ((key, value) :: after) =
          .fail (.interface (.invalidParameterName key)) := by
        unfold bindNamed
        rw [List.mapM_cons]
        dsimp only
        rw [parameterName_of_not_isName hkey]
        rfl
      have hall : bindNamed i (before ++ (key, value) :: after) =
          ⟨(bindAll i true arguments).warnings,
            .error (.interface (.invalidParameterName key))⟩ := by
        unfold bindNamed at hfirst hnext ⊢
        rw [List.mapM_append, hfirst, Reported.bind_ok _ hbound, hnext]
        exact congrArg (Reported.mk · _) (List.append_nil _)
      show bindNamed i (before ++ (key, value) :: after) >>= _ = _
      rw [hall]
      rfl

/-- Other containers are refused. -/
theorem ofProcedure_of_other (htuple : ∀ items, given ≠ .tuple items)
    (hdictionary : ∀ entries, given ≠ .dictionary entries) :
    ofProcedure i procedure given =
      .misuse (.parametersNotTupleOrDictionary given.kind) := by
  cases given with
  | tuple items => exact absurd rfl (htuple items)
  | dictionary entries => exact absurd rfl (hdictionary entries)
  | _ => rfl

/-! ## Returned values -/

/-- The value that was returned for a place: no later one was. -/
def Reports (outputs : Outputs) (place : Nat) (value : Value) : Prop :=
  ∃ before after, outputs = before ++ ((place : Int), value) :: after ∧
    ∀ e ∈ after, e.1 ≠ (place : Int)

theorem returned?_eq_some_iff (outputs : Outputs) (place : Nat) (value : Value) :
    returned? outputs place = some value ↔ Reports outputs place value := by
  unfold returned? Reports
  rw [Option.map_eq_some_iff]
  constructor
  · rintro ⟨⟨found, given⟩, hfound, rfl⟩
    obtain ⟨hplace, later, earlier, hsplit, hnone⟩ := List.find?_eq_some_iff_append.1 hfound
    obtain rfl : found = (place : Int) := of_decide_eq_true hplace
    refine ⟨earlier.reverse, later.reverse, ?_, ?_⟩
    · rw [← outputs.reverse_reverse, hsplit]
      simp
    · intro e he
      simpa using hnone e (List.mem_reverse.1 he)
  · rintro ⟨before, after, rfl, hnone⟩
    refine ⟨((place : Int), value), ?_, rfl⟩
    rw [List.find?_eq_some_iff_append]
    refine ⟨decide_eq_true rfl, after.reverse, before.reverse, by simp, ?_⟩
    intro e he
    simpa using hnone e (List.mem_reverse.1 he)

/-- At most one value was returned for a place. -/
theorem Reports.unique {outputs : Outputs} {place : Nat} {value other : Value}
    (h : Reports outputs place value) (h' : Reports outputs place other) : value = other := by
  rw [← returned?_eq_some_iff] at h h'
  exact Option.some.inj (h.symm.trans h')

/-- The result for each parameter is that for its place. -/
theorem getElem?_resolveFrom (outputs : Outputs) (place : Nat) (ps : List BoundParameter)
    (n : Nat) :
    (resolveFrom outputs place ps)[n]? = ps[n]?.map (resultAt outputs (place + n)) := by
  induction ps generalizing place n with
  | nil => rfl
  | cons p rest ih =>
      cases n with
      | zero => rfl
      | succ n =>
          show (resolveFrom outputs (place + 1) rest)[n]? = _
          rw [ih, Nat.add_right_comm, Nat.add_assoc]
          rfl

end Request

namespace Cursor

open Request

/-! ## Containers -/

/-- A container of the same form: a tuple of the same length, or a dictionary with the same keys.
What stands at each place is in a relation with what stood there. -/
inductive Refills (R : Nat → Value → Value → Prop) : Value → Value → Prop
  | tuple {items items' : List Value} (hlength : items'.length = items.length)
      (h : ∀ place v v', items[place]? = some v → items'[place]? = some v' → R place v v') :
      Refills R (.tuple items) (.tuple items')
  | dictionary {entries entries' : List (Value × Value)}
      (hkeys : entries'.map Prod.fst = entries.map Prod.fst)
      (h : ∀ (place : Nat) (e e' : Value × Value), entries[place]? = some e →
        entries'[place]? = some e' → R place e.2 e'.2) :
      Refills R (.dictionary entries) (.dictionary entries')

/-- What becomes of the argument at a place: an output has the value that was returned for the
place, and if there is none, or it is no output, it is as it was. -/
inductive Replaced (outputs : Outputs) (place : Nat) : Value → Value → Prop
  | returned {inner value : Value} (h : Reports outputs place value) :
      Replaced outputs place (.parameter inner true) value
  | kept {argument : Value}
      (h : ¬ ∃ inner value, argument = .parameter inner true ∧ Reports outputs place value) :
      Replaced outputs place argument argument

theorem Replaced.unique {outputs : Outputs} {place : Nat} {argument value other : Value}
    (h : Replaced outputs place argument value) (h' : Replaced outputs place argument other) :
    value = other := by
  cases h with
  | returned hvalue =>
      cases h' with
      | returned hother => exact hvalue.unique hother
      | kept hnone => exact absurd ⟨_, _, rfl, hvalue⟩ hnone
  | kept hnone =>
      cases h' with
      | returned hother => exact absurd ⟨_, _, rfl, hother⟩ hnone
      | kept => rfl

/-- So there is only one container that can be given back. -/
theorem Refills.unique {outputs : Outputs} {given filled other : Value}
    (h : Refills (Replaced outputs) given filled) (h' : Refills (Replaced outputs) given other) :
    filled = other := by
  cases h with
  | @tuple items _ hlength h =>
      cases h' with
      | tuple hlength' h' =>
          congr 1
          apply List.ext_getElem (hlength.trans hlength'.symm)
          intro place hplace hplace'
          have hgiven : items[place]? = some items[place] :=
            List.getElem?_eq_getElem (hlength ▸ hplace)
          exact (h _ _ _ hgiven (List.getElem?_eq_getElem hplace)).unique
            (h' _ _ _ hgiven (List.getElem?_eq_getElem hplace'))
  | @dictionary entries _ hkeys h =>
      cases h' with
      | dictionary hkeys' h' =>
          have hsame := hkeys.trans hkeys'.symm
          congr 1
          apply List.ext_getElem (by simpa using congrArg List.length hsame)
          intro place hplace hplace'
          have hlength : place < entries.length := by
            have := congrArg List.length hkeys
            rw [List.length_map, List.length_map] at this
            omega
          have hgiven := List.getElem?_eq_getElem hlength
          apply Prod.ext
          · have hkey := congrArg (·[place]?) hsame
            simpa [hplace, hplace'] using hkey
          · exact (h _ _ _ hgiven (List.getElem?_eq_getElem hplace)).unique
              (h' _ _ _ hgiven (List.getElem?_eq_getElem hplace'))

/-- An argument is an output if it is wrapped as one. -/
theorem isOutput_unwrapArgument_iff (argument : Value) :
    (BoundParameter.unwrapArgument argument).2 = true ↔
      ∃ inner, argument = .parameter inner true := by
  cases argument with
  | parameter inner output =>
      show output = true ↔ _
      constructor
      · rintro rfl
        exact ⟨inner, rfl⟩
      · rintro ⟨_, heq⟩
        cases heq
        rfl
  | _ => exact iff_of_false (by simp [BoundParameter.unwrapArgument]) (by rintro ⟨_, ⟨⟩⟩)

variable {outputs : Outputs} {place : Nat}

/-- What becomes of an argument is told by the result for its parameter. -/
theorem replaced_resultAt {argument : Value} {p : BoundParameter}
    (houtput : p.output = (BoundParameter.unwrapArgument argument).2) :
    Replaced outputs place argument ((resultAt outputs place p).value?.getD argument) := by
  by_cases hboth : ∃ inner value, argument = .parameter inner true ∧ Reports outputs place value
  · obtain ⟨inner, value, rfl, hreports⟩ := hboth
    have hresult : resultAt outputs place p = .output value := by
      unfold resultAt
      rw [(returned?_eq_some_iff outputs place value).2 hreports, houtput]
      rfl
    rw [hresult]
    exact .returned hreports
  · have hresult : resultAt outputs place p = .input := by
      unfold resultAt
      split
      next value hp hreturned =>
        obtain ⟨inner, rfl⟩ := (isOutput_unwrapArgument_iff argument).1 (houtput.symm.trans hp)
        exact absurd ⟨inner, value, rfl, (returned?_eq_some_iff ..).1 hreturned⟩ hboth
      · rfl
    rw [hresult]
    exact .kept hboth

/-- So it is for all arguments. -/
theorem replaced_replaceOutputs {values : List Value} {bound : List BoundParameter}
    (h : List.Forall₂ (fun v p => p.output = (BoundParameter.unwrapArgument v).2) values bound)
    {v v' : Value} (hv : values[place]? = some v)
    (hv' : (replaceOutputs values (resolveFrom outputs 0 bound))[place]? = some v') :
    Replaced outputs place v v' := by
  unfold replaceOutputs at hv'
  rw [List.getElem?_zipWith, hv, getElem?_resolveFrom, Nat.zero_add] at hv'
  cases hp : bound[place]? with
  | none =>
      rw [hp] at hv'
      cases hv'
  | some p =>
      rw [hp] at hv'
      cases hv'
      apply replaced_resultAt
      obtain ⟨hlength, rfl⟩ := List.getElem?_eq_some_iff.1 hv
      obtain ⟨hlength', rfl⟩ := List.getElem?_eq_some_iff.1 hp
      exact h.get hlength hlength'

theorem length_replaceOutputs {values : List Value} {bound : List BoundParameter}
    (h : values.length = bound.length) :
    (replaceOutputs values (resolveFrom outputs 0 bound)).length = values.length := by
  simp [replaceOutputs, length_resolveFrom, h]

/-- What is given back for the arguments of a call has their form, and at each place what became of
the argument there. -/
theorem refills_withOutputs {i : Inference} {given : Value} {arguments : List (String × Value)}
    {bound : List BoundParameter} (hnames : NamesArguments given arguments)
    (hbound : (bindAll i true arguments).result = .ok bound) :
    Refills (Replaced outputs) given (withOutputs given (resolveFrom outputs 0 bound)) := by
  have houtputs : List.Forall₂ (fun v p => p.output = (BoundParameter.unwrapArgument v).2)
      (arguments.map Prod.snd) bound := by
    rw [List.forall₂_map_left_iff]
    apply (forall₂_bindAll hbound).imp
    rintro a p ⟨-, b, -, -, -, -, houtput⟩
    exact houtput
  cases hnames with
  | tuple items =>
      have hitems : (items.map fun item => ("", item)).map Prod.snd = items := by
        simp [Function.comp_def]
      rw [hitems] at houtputs
      apply Refills.tuple
      · exact length_replaceOutputs houtputs.length_eq
      · intro place v v'
        exact replaced_replaceOutputs houtputs
  | @dictionary entries _ hentries =>
      have hvalues : arguments.map Prod.snd = entries.map Prod.snd := by
        clear hbound houtputs
        induction hentries with
        | nil => rfl
        | cons hfirst _ ih => exact congrArg₂ List.cons hfirst.2.symm ih
      rw [hvalues] at houtputs
      have hlength : (entries.map Prod.fst).length =
          (replaceOutputs (entries.map Prod.snd) (resolveFrom outputs 0 bound)).length := by
        rw [length_replaceOutputs houtputs.length_eq]
        simp
      apply Refills.dictionary
      · exact List.map_fst_zip (Nat.le_of_eq hlength)
      · intro place e e' he he'
        have hv' : (replaceOutputs (entries.map Prod.snd) (resolveFrom outputs 0 bound))[place]? =
            some e'.2 := (List.getElem?_zip_eq_some.1 he').2
        apply replaced_replaceOutputs houtputs ?_ hv'
        rw [List.getElem?_map, he]
        rfl

end Cursor

end TdsClient
