import Mathlib.Data.List.Forall2
import TdsClient.Binding.Reported

/-!
# Steps with warnings

Results with warnings obey the laws of monads: warnings of later steps follow
those of earlier ones, however the steps are grouped. What is made of the
steps succeeds if all of them do.

## Main results

* `result_bind_eq_ok` — two steps that succeed.
* `forall₂_of_mapM`, `mapM_of_forall₂` — steps for all items of a list that succeed.
-/

namespace TdsClient

namespace Reported

variable {α β : Type}

instance : LawfulMonad Reported := LawfulMonad.mk' Reported
  (by
    intro α x
    obtain ⟨warnings, result⟩ := x
    cases result with
    | error e => rfl
    | ok a =>
        show Reported.mk (warnings ++ []) _ = _
        rw [List.append_nil]
        rfl)
  (by
    intro α β a f
    rfl)
  (by
    intro α β γ x f g
    obtain ⟨warnings, result⟩ := x
    cases result with
    | error e => rfl
    | ok a =>
        show (Reported.mk (warnings ++ (f a).warnings) (f a).result) >>= g =
          Reported.mk (warnings ++ (f a >>= g).warnings) (f a >>= g).result
        cases hresult : (f a).result with
        | error e =>
            rw [bind_error g hresult, bind_error g rfl]
        | ok b =>
            rw [bind_ok g hresult, bind_ok g rfl, List.append_assoc])

/-- Two steps succeed if each of them does. -/
theorem result_bind_eq_ok {x : Reported α} {f : α → Reported β} {b : β}
    (h : (x >>= f).result = .ok b) : ∃ a, x.result = .ok a ∧ (f a).result = .ok b := by
  cases hresult : x.result with
  | error e =>
      rw [bind_error f hresult] at h
      cases h
  | ok a =>
      rw [bind_ok f hresult] at h
      exact ⟨a, rfl, h⟩

/-- Items are treated in order, each with success. -/
theorem forall₂_of_mapM {f : α → Reported β} {items : List α} {results : List β}
    (h : (items.mapM f).result = .ok results) :
    List.Forall₂ (fun a b => (f a).result = .ok b) items results := by
  induction items generalizing results with
  | nil =>
      rw [List.mapM_nil] at h
      cases h
      exact .nil
  | cons a rest ih =>
      rw [List.mapM_cons] at h
      obtain ⟨b, hb, h⟩ := result_bind_eq_ok h
      obtain ⟨bs, hbs, h⟩ := result_bind_eq_ok h
      cases h
      exact .cons hb (ih hbs)

/-- If each item is treated with success, so are all of them, and the warnings follow each
other. -/
theorem mapM_of_forall₂ {f : α → Reported β} {items : List α} {results : List β}
    (h : List.Forall₂ (fun a b => (f a).result = .ok b) items results) :
    items.mapM f = ⟨items.flatMap fun a => (f a).warnings, .ok results⟩ := by
  induction h with
  | nil => rfl
  | @cons a b rest results hfirst _ ih =>
      rw [List.mapM_cons, bind_ok _ hfirst, ih, bind_ok _ rfl, List.flatMap_cons]
      exact congrArg (mk · _) (congrArg ((f a).warnings ++ ·) (List.append_nil _))

/-- If it is known what comes of each item, it is known what comes of all of them. -/
theorem mapM_of_forall {f : α → Reported β} {warned : α → List BindingWarning} {g : α → β}
    {items : List α} (h : ∀ a ∈ items, f a = ⟨warned a, .ok (g a)⟩) :
    items.mapM f = ⟨items.flatMap warned, .ok (items.map g)⟩ := by
  have hresults : List.Forall₂ (fun a b => (f a).result = .ok b) items (items.map g) := by
    rw [List.forall₂_map_right_iff, List.forall₂_same]
    exact fun a ha => congrArg result (h a ha)
  rw [mapM_of_forall₂ hresults]
  exact congrArg (mk · _) (List.flatMap_congr fun a ha => congrArg warnings (h a ha))

end Reported

end TdsClient
