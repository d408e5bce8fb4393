import TdsClient.Proofs.Cursor.Repetition
import TdsClient.Proofs.Statement.Declarations

/-!
# Declarations of a repeated statement

A statement is repeated without minimisation, so that all its calls should
declare the same types and the server can use one plan for them. All calls
execute the same statement. They declare the same types exactly if the items
agree in the places that types tell of: decimal numbers of different scales
are declared differently, and so are dates and times with and without a
fraction of a second. For values of all other kinds the calls are alike.

## Main definitions

* `SessionCall.text?` — a text that a call sends.

## Main results

* `executeMany_declarations` — which declarations the calls share.
-/

namespace TdsClient

open Connection Request

variable {σ : Type} [Session σ]

/-- The text that is sent as a parameter when a statement with parameters is executed. -/
def SessionCall.text? (name : String) : SessionCall → Option String
  | .call procedure parameters =>
    if procedure = executeSql then
      (parameters.find? fun p => p.name = name).bind fun p =>
        match p.value with
        | .text s => some s
        | _ => none
    else none
  | _ => none

/-- The call of a statement sends the statement and the declarations. -/
theorem Request.text_executeCall (i : Inference) (statement : String)
    (bound : List BoundParameter) :
    (executeCall i statement bound).use.text? "@stmt" = some statement ∧
      (executeCall i statement bound).use.text? "@params" =
        some (", ".intercalate (bound.map (·.declaration))) := by
  have hname : ∀ name text, (BoundParameter.nationalText i name text).name = name :=
    fun _ _ => rfl
  constructor
  · simp [Request.use, executeCall, SessionCall.text?, hname, value_nationalText]
  · simp [Request.use, executeCall, SessionCall.text?, hname, value_nationalText]

namespace Cursor

variable {k : Cursor} {shape : List (String × PlainKind)}

/-- What the call for an item of a shape sends. -/
theorem text_of_hasShape {i : Inference} {style : ParamStyle} {sql : String} {item : Value}
    {r : Request} (hshape : shape ≠ []) (hitem : HasShape style shape item)
    (hr : (Request.ofStatement i style false sql item).result = .ok r) :
    r.use.text? "@stmt" = some (calledStatement style sql) ∧
      r.use.text? "@params" = some (declarations i shape (placesOf i style item)) := by
  obtain ⟨bound, rfl, hdeclared⟩ := executeCall_of_hasShape hitem hshape hr
  obtain ⟨hstatement, hdeclarations⟩ :=
    Request.text_executeCall i (calledStatement style sql) bound
  exact ⟨hstatement, hdeclared ▸ hdeclarations⟩

/-- If all that is tried has something in common, it is known what. -/
theorem exists_common_iff {α β γ : Type} {items : List α} {f : α → β} {g : α → γ}
    (h : ∀ a ∈ items, ∀ b ∈ items, f a = f b ↔ g a = g b) [Inhabited β] [Inhabited γ] :
    (∃ x, ∀ a ∈ items, f a = x) ↔ ∃ y, ∀ a ∈ items, g a = y := by
  cases items with
  | nil => exact iff_of_true ⟨default, nofun⟩ ⟨default, nofun⟩
  | cons first rest =>
      have hfirst := List.mem_cons_self (a := first) (l := rest)
      constructor
      · rintro ⟨x, hx⟩
        exact ⟨g first, fun a ha => (h a ha first hfirst).1 ((hx a ha).trans (hx _ hfirst).symm)⟩
      · rintro ⟨y, hy⟩
        exact ⟨f first, fun a ha => (h a ha first hfirst).2 ((hy a ha).trans (hy _ hfirst).symm)⟩

/-- What is known of results in order, item by item, holds of all if it does of the items. -/
theorem forall_results_iff {α β γ : Type} {f : α → γ} {g : β → γ} {items : List α}
    {results : List β} (h : List.Forall₂ (fun a b => g b = f a) items results) (P : γ → Prop) :
    (∀ b ∈ results, P (g b)) ↔ ∀ a ∈ items, P (f a) := by
  induction h with
  | nil => simp
  | cons hfirst _ ih => simp [hfirst, ih]

/-- A statement is repeated for items with arguments of the same names, which are plain values of
the same kinds. All calls that are submitted execute the same statement. They have the same
declarations exactly if the items for which they were submitted have the same places; so they always
do if the types of no kind vary. -/
theorem executeMany_declarations {c : Connection (Recorded σ)} (hk : c.Has k) (sql : String)
    {given : Value} {items : List Value} (hgiven : given.items? = some items) (hshape : shape ≠ [])
    (hitems : ∀ item ∈ items, HasShape c.style shape item) :
    ∃ tried sent, tried <+: items ∧ sent.length = tried.length ∧
      ((k.executeMany sql given).after c).session.submissions = c.session.submissions ++ sent ∧
      (∃ statement, ∀ call ∈ sent, call.text? "@stmt" = some statement) ∧
      ((∃ declared, ∀ call ∈ sent, call.text? "@params" = some declared) ↔
        ∃ places, ∀ item ∈ tried, placesOf c.inference c.style item = places) ∧
      ((∀ s ∈ shape, ¬ c.inference.Varies s.2) →
        ∃ declared, ∀ call ∈ sent, call.text? "@params" = some declared) := by
  obtain ⟨tried, requests, hfront, hbound, hsubmissions⟩ :=
    submissions_executeMany hk sql hgiven
  have htried : ∀ item ∈ tried, HasShape c.style shape item :=
    fun item hitem => hitems item (hfront.subset hitem)
  have htexts := ((List.forall₂_and_left _ _).2 ⟨htried, hbound⟩).imp
    fun _ _ h => text_of_hasShape hshape h.1 h.2
  have hstatement : ∀ call ∈ requests.map Request.use,
      call.text? "@stmt" = some (calledStatement c.style sql) := by
    rw [List.forall_mem_map]
    exact (forall_results_iff (htexts.imp fun _ _ h => h.1)
      (· = some (calledStatement c.style sql))).2 fun _ _ => rfl
  have hdeclared : ∀ declared, (∀ call ∈ requests.map Request.use,
      call.text? "@params" = some declared) ↔ ∀ item ∈ tried,
        declarations c.inference shape (placesOf c.inference c.style item) = declared := by
    intro declared
    rw [List.forall_mem_map, forall_results_iff (htexts.imp fun _ _ h => h.2) (· = some declared)]
    simp only [Option.some.injEq]
  have hiff : (∃ declared, ∀ call ∈ requests.map Request.use,
      call.text? "@params" = some declared) ↔
        ∃ places, ∀ item ∈ tried, placesOf c.inference c.style item = places := by
    rw [exists_congr hdeclared]
    exact exists_common_iff fun _ hitem _ hitem' =>
      declarations_placesOf_iff (htried _ hitem) (htried _ hitem')
  refine ⟨tried, requests.map Request.use, hfront, ?_, hsubmissions, ⟨_, hstatement⟩, hiff, ?_⟩
  · rw [List.length_map, hbound.length_eq]
  · intro hfixed
    exact hiff.2 ⟨shape.map fun _ => 0, fun item hitem =>
      placesOf_eq_zero (htried item hitem) hfixed⟩

/-- Two integers of different sizes. -/
def integerItems : List Value := [.tuple [.int 1], .tuple [.int (2 ^ 40)]]

/-- Integers are declared alike. -/
theorem executeMany_declarations_integers :
    ∃ sent declared,
      ((executeMany ⟨0⟩ "INSERT INTO t VALUES (:0)" (.list integerItems)).after
        inserting).session.submissions = inserting.session.submissions ++ sent ∧
      sent.length = 2 ∧ ∀ call ∈ sent, call.text? "@params" = some declared := by
  have hitems : ∀ item ∈ integerItems, HasShape inserting.style [("@param0", .int)] item := by
    intro item hitem
    rcases List.mem_pair.1 hitem with rfl | rfl
    · exact ⟨.positions [.int 1], rfl, .cons ⟨rfl, rfl⟩ .nil⟩
    · exact ⟨.positions [.int (2 ^ 40)], rfl, .cons ⟨rfl, rfl⟩ .nil⟩
  obtain ⟨tried, sent, -, -, hsubmissions, -, -, hshared⟩ :=
    executeMany_declarations has_inserting "INSERT INTO t VALUES (:0)"
      (show (Value.list integerItems).items? = some integerItems from rfl) (List.cons_ne_nil _ _)
      hitems
  obtain ⟨declared, hdeclared⟩ := hshared (by simp [Inference.Varies])
  have hlength : ((executeMany ⟨0⟩ "INSERT INTO t VALUES (:0)" (.list integerItems)).after
      inserting).session.submissions.length = inserting.session.submissions.length + 2 := by
    decide +kernel
  rw [hsubmissions, List.length_append] at hlength
  exact ⟨sent, declared, hsubmissions, Nat.add_left_cancel hlength, hdeclared⟩

/-- Two dates and times, one of them with a fraction of a second. -/
def momentItems : List Value :=
  [.tuple [.dateTime ⟨⟨2020, 1, 2⟩, ⟨3, 4, 5, 0⟩⟩], .tuple [.dateTime ⟨⟨2020, 1, 2⟩, ⟨3, 4, 5, 6⟩⟩]]

/-- Dates and times are not, although all items have one shape. -/
theorem moments_declared_apart :
    (∀ item ∈ momentItems, HasShape inserting.style [("@param0", .dateTime)] item) ∧
      ((executeMany ⟨0⟩ "INSERT INTO t VALUES (:0)" (.list momentItems)).after
        inserting).session.submissions.map (·.text? "@params") =
        [some "@param0 DATETIME", some "@param0 DATETIME2(7)"] := by
  constructor
  · intro item hitem
    rcases List.mem_pair.1 hitem with rfl | rfl
    · exact ⟨.positions [_], rfl, .cons ⟨rfl, rfl⟩ .nil⟩
    · exact ⟨.positions [_], rfl, .cons ⟨rfl, rfl⟩ .nil⟩
  · decide +kernel

end Cursor

end TdsClient
