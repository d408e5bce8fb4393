import TdsClient.Proofs.Statement.Lexing
import TdsClient.Value.Literal

/-!
# Literals inside of others

What follows a literal inside of another is a comma, a colon, or the bracket
that closes the other. A literal is cut off from what follows if these tell
where it ends, and it is known then what it is the literal of. Items that
can be cut off one by one can be cut off together, up to the closing bracket.

## Main definitions

* `Value.Stops` — what may follow a literal.
* `Value.Cuts` — an item that can be cut off from what follows.
* `Value.joined` — items one after the other.

## Main results

* `joined_cut` — so can all items together.
-/

namespace TdsClient.Value

/-- Whether a character ends the literal in front of it. -/
def isStop (c : Char) : Bool := c ∈ [',', ':', ')', ']', '\x7d']

theorem isDigit_of_isStop {c : Char} (h : isStop c = true) : c.isDigit = false := by
  have hdigit : ∀ d ∈ [',', ':', ')', ']', '\x7d'], d.isDigit = false := by simp
  exact hdigit c (of_decide_eq_true h)

/-- What may follow a literal. -/
def Stops (tail : List Char) : Prop := ∀ c ∈ tail.head?, isStop c = true

theorem stops_cons {c : Char} (hc : isStop c = true) (tail : List Char) : Stops (c :: tail) := by
  rintro d ⟨⟩
  exact hc

theorem stops_nil : Stops [] := nofun

/-- Texts are cut off in front of the first character of a kind, if there is one behind them. -/
theorem append_cut {p : Char → Bool} {s t u v : List Char} (hs : ∀ c ∈ s, p c = false)
    (ht : ∀ c ∈ t, p c = false) (hu : ∀ c ∈ u.head?, p c = true) (hv : ∀ c ∈ v.head?, p c = true)
    (h : s ++ u = t ++ v) : s = t ∧ u = v := by
  have hfront : ∀ {w tail : List Char}, (∀ c ∈ w, p c = false) →
      (∀ c ∈ tail.head?, p c = true) → (w ++ tail).takeWhile (fun c => !p c) = w := by
    intro w tail hw htail
    have hword : ∀ c ∈ w, (!p c) = true := fun c hc => by rw [hw c hc]; rfl
    have hstop : ∀ c ∈ tail.head?, (!p c) = false := fun c hc => by rw [htail c hc]; rfl
    exact (Lexeme.span_exact hword hstop).1
  have hsame : s = t := by rw [← hfront hs hu, h, hfront ht hv]
  rw [hsame] at h
  exact ⟨hsame, List.append_cancel_left h⟩

/-- A text of no stops is cut off from what may follow it. -/
theorem stops_cut {s t u v : List Char} (hs : ∀ c ∈ s, isStop c = false)
    (ht : ∀ c ∈ t, isStop c = false) (hu : Stops u) (hv : Stops v) (h : s ++ u = t ++ v) :
    s = t ∧ u = v :=
  append_cut hs ht hu hv h

/-! ## Items one after the other -/

section

variable {α : Type}

/-- Whether the text of an item can be cut off from what follows and tells the item. -/
def Cuts (f : α → List Char) (good : α → Prop) (a : α) : Prop :=
  ∀ b, good b → ∀ u v, Stops u → Stops v → f a ++ u = f b ++ v → a = b ∧ u = v

/-- Whether a text begins, and not with a stop. -/
def Begins (text : List Char) : Prop := ∃ c ∈ text.head?, isStop c = false

/-- Items, each behind a comma. -/
def following (f : α → List Char) (items : List α) : List Char :=
  items.flatMap fun item => ',' :: ' ' :: f item

/-- Items with commas between them. -/
def joined (f : α → List Char) : List α → List Char
  | [] => []
  | item :: rest => f item ++ following f rest

theorem toList_intercalate_map (f : α → String) (items : List α) :
    (", ".intercalate (items.map f)).toList = joined (fun item => (f item).toList) items := by
  cases items with
  | nil => rfl
  | cons item rest =>
      induction rest generalizing item with
      | nil => simp [joined, following]
      | cons next rest ih =>
          rw [List.map_cons, List.map_cons, String.intercalate_cons_cons, String.toList_append,
            String.toList_append, ← List.map_cons, ih]
          simp [joined, following]

variable {f : α → List Char} {good : α → Prop} {xs ys : List α} {c d : Char} {u v : List Char}

/-- The bracket behind items. -/
def Closes (c : Char) : Prop := c ∈ [')', ']', '\x7d']

instance : DecidablePred Closes := fun _ => inferInstanceAs (Decidable (_ ∈ _))

theorem Closes.isStop (hc : Closes c) : isStop c = true := by
  unfold Closes at hc
  unfold Value.isStop
  simp only [List.mem_cons, List.not_mem_nil, or_false] at hc
  rcases hc with rfl | rfl | rfl <;> rfl

theorem Closes.ne_comma (hc : Closes c) : c ≠ ',' := by
  rintro rfl
  exact absurd hc (by decide)

theorem stops_following (hc : Closes c) : Stops (following f xs ++ c :: u) := by
  cases xs with
  | nil => exact stops_cons hc.isStop u
  | cons x xs => exact stops_cons rfl _

theorem following_cut (hxs : ∀ x ∈ xs, Cuts f good x) (hys : ∀ y ∈ ys, good y) (hc : Closes c)
    (hd : Closes d) (h : following f xs ++ c :: u = following f ys ++ d :: v) :
    xs = ys ∧ c = d ∧ u = v := by
  induction xs generalizing ys with
  | nil =>
      cases ys with
      | nil =>
          obtain ⟨hcd, huv⟩ := List.cons.inj h
          exact ⟨rfl, hcd, huv⟩
      | cons y ys => exact absurd (List.cons.inj h).1 hc.ne_comma
  | cons x xs ih =>
      cases ys with
      | nil => exact absurd (List.cons.inj h).1.symm hd.ne_comma
      | cons y ys =>
          obtain ⟨hx, hxs'⟩ := List.forall_mem_cons.1 hxs
          obtain ⟨hy, hys'⟩ := List.forall_mem_cons.1 hys
          have hitems : f x ++ (following f xs ++ c :: u) = f y ++ (following f ys ++ d :: v) := by
            simpa [following] using h
          obtain ⟨rfl, hrest⟩ :=
            hx y hy _ _ (stops_following hc) (stops_following hd) hitems
          obtain ⟨rfl, hcd, huv⟩ := ih hxs' hys' hrest
          exact ⟨rfl, hcd, huv⟩

theorem joined_cut (hxs : ∀ x ∈ xs, Cuts f good x) (hys : ∀ y ∈ ys, good y)
    (hbegins : ∀ item, Begins (f item)) (hc : Closes c) (hd : Closes d)
    (h : joined f xs ++ c :: u = joined f ys ++ d :: v) : xs = ys ∧ c = d ∧ u = v := by
  have hempty : ∀ {e : Char} {w w' : List Char} {item : α}, Closes e → e :: w ≠ f item ++ w' := by
    intro e w w' item he heq
    obtain ⟨first, hfirst, hstop⟩ := hbegins item
    obtain ⟨rest, hrest⟩ := List.head?_eq_some_iff.1 hfirst
    rw [hrest] at heq
    have hsame : e = first := (List.cons.inj heq).1
    rw [← hsame, he.isStop] at hstop
    cases hstop
  cases xs with
  | nil =>
      cases ys with
      | nil =>
          obtain ⟨hcd, huv⟩ := List.cons.inj h
          exact ⟨rfl, hcd, huv⟩
      | cons y ys =>
          rw [joined, joined, List.append_assoc] at h
          exact absurd h (hempty hc)
  | cons x xs =>
      cases ys with
      | nil =>
          rw [joined, joined, List.append_assoc] at h
          exact absurd h.symm (hempty hd)
      | cons y ys =>
          obtain ⟨hx, hxs'⟩ := List.forall_mem_cons.1 hxs
          obtain ⟨hy, hys'⟩ := List.forall_mem_cons.1 hys
          rw [joined, joined, List.append_assoc, List.append_assoc] at h
          obtain ⟨rfl, hrest⟩ := hx y hy _ _ (stops_following hc) (stops_following hd) h
          obtain ⟨rfl, hcd, huv⟩ := following_cut hxs' hys' hc hd hrest
          exact ⟨rfl, hcd, huv⟩

end

end TdsClient.Value
