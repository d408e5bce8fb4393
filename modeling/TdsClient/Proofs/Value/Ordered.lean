import Mathlib.Order.Compare
import TdsClient.Value.Order

/-!
# The order of values

Each kind of value has its rules for the four comparisons of order. Numbers,
texts, byte strings and dates have an order, but for a NaN, which stands in
none. Lists and tuples are compared by their first items that are not equal.
Of two sets one may be a part of the other. A parameter answers for itself.

The strict comparison that is asked for where values are taken in is one of
these, and equality goes together with them.

## Main definitions

* `Value.orderAtoms` — where two values stand to each other that hold no others.
* `Value.ordered` — the comparisons of order.
* `Comparison.ofValues` — all six comparisons of two values.

## Main results

* `Value.meets` — the ways in which two values are compared.
* `Value.atomsOrdered` — equality and order of values that hold no others.
* `Value.less_eq_ordered` — the strict comparison is one by the rules.
-/

namespace TdsClient

open Number

namespace Comparison

/-- Whether a comparison holds of two values that are in an order. -/
def holdsOf : Comparison → Ordering → Bool
  | .eq, order => order = .eq
  | .ne, order => order ≠ .eq
  | .lt, order => order = .lt
  | .le, order => order ≠ .gt
  | .gt, order => order = .gt
  | .ge, order => order ≠ .lt

/-- The comparison that asks the same from the other side. -/
def swapped : Comparison → Comparison
  | .eq => .eq
  | .ne => .ne
  | .lt => .gt
  | .le => .ge
  | .gt => .lt
  | .ge => .le

/-- Whether a comparison is one of order. -/
def isOfOrder : Comparison → Bool
  | .eq | .ne => false
  | .lt | .le | .gt | .ge => true

/-- Comparisons of sets: whether one is a part of the other, or of the other with more items. -/
def ofSets (op : Comparison) (xs ys : List Value) : Bool :=
  match op with
  | .eq => xs.length = ys.length && Value.isSubset xs ys
  | .ne => !(xs.length = ys.length && Value.isSubset xs ys)
  | .lt => xs.length < ys.length && Value.isSubset xs ys
  | .le => xs.length ≤ ys.length && Value.isSubset xs ys
  | .gt => ys.length < xs.length && Value.isSubset ys xs
  | .ge => ys.length ≤ xs.length && Value.isSubset ys xs

end Comparison

namespace Value

/-! ## The rules of the kinds -/

/-- A value without the parameter that it may be in. -/
def bare : Value → Value
  | .parameter w _ => w
  | w => w

/-- Order of byte strings of several kinds: two constant ones, or any two of which one can be
changed. -/
def orderBytes (a b : Value) (s t : Bytes) : Except CompareError (Option Ordering) :=
  match a, b with
  | .bytes _, .bytes _ => .ok (some (cmp s t))
  | .byteArray _, _ => .ok (some (cmp s t))
  | _, .byteArray _ => .ok (some (cmp s t))
  | _, _ => .error .unordered

/-- Order of numbers, if they have one. With a decimal number on either side a NaN signals. -/
def orderNumbers (decimal : Bool) (m n : Decimal) : Except CompareError (Option Ordering) :=
  match m.compare? n with
  | some order => .ok (some order)
  | none => if decimal then .error .signalingNaN else .ok none

/-- Order of values that hold no others, if they have one. -/
def orderAtoms (a b : Value) : Except CompareError (Option Ordering) :=
  match a.asNumber?, b.asNumber? with
  | some m, some n => orderNumbers (a.isDecimal || b.isDecimal) m n
  | _, _ =>
    match a.asBytes?, b.asBytes? with
    | some s, some t => orderBytes a b s t
    | _, _ =>
      match a, b with
      | .text s, .text t => .ok (some (cmp s t))
      | .dateTime s, .dateTime t => .ok (some (cmp s.fields t.fields))
      | .date s, .date t => .ok (some (cmp s.fields t.fields))
      | .time s, .time t => .ok (some (cmp s.fields t.fields))
      | .uuid s, .uuid t => .ok (some (cmp s.word t.word))
      | .foreign .duration, .foreign .duration => .ok (some .eq)
      | _, _ => .error .unordered

/-- Order of sequences of which one is the front of the other. -/
def orderLengths (xs ys : List Value) : Ordering := cmp xs.length ys.length

mutual

/-- A comparison of order of two values. A parameter on the left answers for itself, and one on the
right is asked from its side. -/
def ordered (op : Comparison) (a b : Value) : Except CompareError Bool :=
  match a, b with
  | .parameter v o, w => op.ofParameter (.parameter v o) w
  | v, .parameter w o => op.swapped.ofParameter (.parameter w o) v
  | .list xs, .list ys => orderedItems op xs ys
  | .tuple xs, .tuple ys => orderedItems op xs ys
  | .set xs, .set ys => .ok (op.ofSets xs ys)
  | v, w => do return (← orderAtoms v w).any op.holdsOf
termination_by sizeOf a + sizeOf b

/-- A comparison of sequences: by the first items that are not equal, else by length. -/
def orderedItems (op : Comparison) (xs ys : List Value) : Except CompareError Bool :=
  match xs, ys with
  | x :: xs, y :: ys => do
    if (← equal x y) then orderedItems op xs ys else ordered op x y
  | xs, ys => .ok (op.holdsOf (orderLengths xs ys))
termination_by sizeOf xs + sizeOf ys

end

end Value

/-- A comparison of two values. -/
def Comparison.ofValues (op : Comparison) (a b : Value) : Except CompareError Bool :=
  match op with
  | .eq => a.equal b
  | .ne => do return !(← a.equal b)
  | _ => Value.ordered op a b

namespace Value

/-! ## What a parameter asks the value in it -/

theorem equal_parameter (v : Value) (o : Bool) (w : Value) :
    equal (.parameter v o) w = equal v w.bare := by
  rw [equal.eq_def]
  cases w <;> rfl

theorem less_parameter (v : Value) (o : Bool) (w : Value) :
    less (.parameter v o) w = less v w.bare := by
  rw [less.eq_def]
  cases w <;> rfl

section

variable {v : Value} (hv : ∀ u o, v ≠ .parameter u o)
include hv

theorem bare_of_ne : v.bare = v := by
  cases v with
  | parameter u o => exact absurd rfl (hv u o)
  | _ => rfl

/-- A parameter on the right is asked from its side. -/
theorem equal_parameter_right (w : Value) (o : Bool) :
    equal v (.parameter w o) = equal (.parameter w o) v := by
  rw [equal_parameter, bare_of_ne hv, equal.eq_def]
  cases v with
  | parameter u o => exact absurd rfl (hv u o)
  | _ => rfl

theorem less_parameter_right (w : Value) (o : Bool) :
    less v (.parameter w o) = Comparison.gt.ofParameter (.parameter w o) v := by
  rw [Comparison.ofParameter, less_parameter, equal_parameter, bare_of_ne hv, less.eq_def]
  cases v with
  | parameter u o => exact absurd rfl (hv u o)
  | _ => rfl

theorem ordered_parameter_right (op : Comparison) (w : Value) (o : Bool) :
    ordered op v (.parameter w o) = op.swapped.ofParameter (.parameter w o) v := by
  rw [ordered.eq_def]
  cases v with
  | parameter u o => exact absurd rfl (hv u o)
  | _ => rfl

end

/-- The ways in which two values meet: one of them is a parameter, both are containers of the same
kind, or the comparisons of order are those of values that hold no others. -/
inductive Meets : Value → Value → Prop
  | left (v : Value) (o : Bool) (w : Value) : Meets (.parameter v o) w
  | right {v : Value} (hv : ∀ u o, v ≠ .parameter u o) (w : Value) (o : Bool) :
      Meets v (.parameter w o)
  | lists (xs ys : List Value) : Meets (.list xs) (.list ys)
  | tuples (xs ys : List Value) : Meets (.tuple xs) (.tuple ys)
  | sets (xs ys : List Value) : Meets (.set xs) (.set ys)
  | others {v w : Value} (hless : less v w = lessAtoms v w)
      (hordered : ∀ op, ordered op v w = do return (← orderAtoms v w).any op.holdsOf)
      (hequal : ∀ order, orderAtoms v w = .ok order → equal v w = equalAtoms v w) : Meets v w

theorem meets (a b : Value) : Meets a b := by
  have hless := less.eq_def a b
  split at hless
  · exact .left ..
  · exact .left ..
  next hnot => exact .right hnot _ _
  · exact .lists ..
  · exact .tuples ..
  · exact .sets ..
  next hleft hright _ hlists htuples hsets =>
    refine .others hless (fun op => ?_) fun order horder => ?_
    · rw [ordered.eq_def]
      split
      · exact (hleft _ _ rfl).elim
      · exact (hright _ _ rfl).elim
      · exact (hlists _ _ rfl rfl).elim
      · exact (htuples _ _ rfl rfl).elim
      · exact (hsets _ _ rfl rfl).elim
      · rfl
    · rw [equal.eq_def]
      split
      · exact (hleft _ _ rfl).elim
      · exact (hleft _ _ rfl).elim
      · exact (hright _ _ rfl).elim
      · exact (hlists _ _ rfl rfl).elim
      · exact (htuples _ _ rfl rfl).elim
      · cases horder -- dictionaries have no order
      · exact (hsets _ _ rfl rfl).elim
      · rfl

/-! ## Values that hold no others -/

section

variable {α : Type} [LT α] [DecidableLT α] {s t : α}

theorem decide_cmp_lt : decide (cmp s t = .lt) = decide (s < t) := by
  unfold cmp cmpUsing
  by_cases hless : s < t
  · simp [hless]
  · by_cases hgreater : t < s <;> simp [hless, hgreater]

theorem decide_cmp_eq [DecidableEq α] [Std.Irrefl (fun a b : α => a < b)]
    [Std.Trichotomous (fun a b : α => a < b)] : decide (cmp s t = .eq) = decide (s = t) := by
  have hirrefl : ∀ a : α, ¬ a < a := Std.Irrefl.irrefl
  unfold cmp cmpUsing
  by_cases hless : s < t
  · have hne : s ≠ t := fun heq => hirrefl t (heq ▸ hless)
    simp [hless, hne]
  · by_cases hgreater : t < s
    · have hne : s ≠ t := fun heq => hirrefl t (heq ▸ hgreater)
      simp [hless, hgreater, hne]
    · have heq : s = t := Std.Trichotomous.trichotomous s t hless hgreater
      simp [hirrefl, heq]

end

/-- The ways in which two values that hold no others meet: both are numbers, they are in an order
that equality and comparison are about, or they have no order. -/
inductive AtomsMeet (a b : Value) : Prop
  | numbers {m n : Decimal} (ha : a.asNumber? = some m) (hb : b.asNumber? = some n)
  | ordered (order : Ordering) (horder : orderAtoms a b = .ok (some order))
      (hless : lessAtoms a b = .ok (decide (order = .lt)))
      (hequal : equalAtoms a b = .ok (decide (order = .eq)))
  | unordered (horder : orderAtoms a b = .error .unordered)
      (hless : lessAtoms a b = .error .unordered)

theorem fields_date_inj {s t : Date} : s.fields = t.fields ↔ s = t := by
  cases s
  cases t
  simp [Date.fields]

theorem fields_time_inj {s t : Time} : s.fields = t.fields ↔ s = t := by
  cases s
  cases t
  simp [Time.fields]

theorem fields_dateTime_inj {s t : DateTime} : s.fields = t.fields ↔ s = t := by
  cases s
  cases t
  simp [DateTime.fields, Date.fields, Time.fields, DateTime.mk.injEq, ← fields_date_inj,
    ← fields_time_inj, and_assoc]

theorem word_inj {s t : Uuid} : s.word = t.word ↔ s = t := by
  cases s
  cases t
  simp

/-- Things with an order of their own are in the order of what they are compared by. -/
theorem AtomsMeet.of_cmp {a b : Value} {α β : Type} [DecidableEq α] [LT β] [DecidableLT β]
    [DecidableEq β] [Std.Irrefl (fun x y : β => x < y)] [Std.Trichotomous (fun x y : β => x < y)]
    {s t : α} {f : α → β} (hf : f s = f t ↔ s = t)
    (horder : orderAtoms a b = .ok (some (cmp (f s) (f t))))
    (hless : lessAtoms a b = .ok (decide (f s < f t)))
    (hequal : equalAtoms a b = .ok (decide (s = t))) : AtomsMeet a b := by
  refine .ordered (cmp (f s) (f t)) horder ?_ ?_
  · rw [hless, decide_cmp_lt]
  · rw [hequal, decide_cmp_eq]
    exact congrArg _ (decide_eq_decide.2 hf.symm)

theorem atomsMeet (a b : Value) : AtomsMeet a b := by
  cases a with
  | bool | int | float | decimal =>
    cases b with
    | bool | int | float | decimal => exact .numbers rfl rfl
    | _ => exact .unordered rfl rfl
  | bytes s =>
    cases b with
    | bytes t | byteArray t =>
      exact .of_cmp (s := s) (t := t) (f := id) Iff.rfl rfl rfl rfl
    | _ => exact .unordered rfl rfl
  | byteArray s =>
    cases b with
    | bytes t | byteArray t | memoryView t =>
      exact .of_cmp (s := s) (t := t) (f := id) Iff.rfl rfl rfl rfl
    | _ => exact .unordered rfl rfl
  | memoryView s =>
    cases b with
    | byteArray t =>
      exact .of_cmp (s := s) (t := t) (f := id) Iff.rfl rfl rfl rfl
    | _ => exact .unordered rfl rfl
  | text s =>
    cases b with
    | text t =>
      exact .of_cmp (s := s) (t := t) (f := id) Iff.rfl rfl rfl rfl
    | _ => exact .unordered rfl rfl
  | dateTime s =>
    cases b with
    | dateTime t =>
      exact .of_cmp fields_dateTime_inj rfl rfl rfl
    | _ => exact .unordered rfl rfl
  | date s =>
    cases b with
    | date t =>
      exact .of_cmp fields_date_inj rfl rfl rfl
    | _ => exact .unordered rfl rfl
  | time s =>
    cases b with
    | time t =>
      exact .of_cmp fields_time_inj rfl rfl rfl
    | _ => exact .unordered rfl rfl
  | uuid s =>
    cases b with
    | uuid t =>
      exact .of_cmp word_inj rfl rfl rfl
    | _ => exact .unordered rfl rfl
  | foreign s =>
    cases b with
    | foreign t =>
      cases s with
      | duration =>
        cases t with
        | duration => exact .ordered .eq rfl rfl rfl
        | _ => exact .unordered rfl rfl
      | _ => exact .unordered rfl rfl
    | _ => cases s <;> exact .unordered rfl rfl
  | _ => exact .unordered rfl rfl

/-- Only decimal numbers can be signaling NaNs. -/
theorem isSignaling_of_not_isDecimal {a : Value} {m : Decimal} (ha : a.asNumber? = some m)
    (hdecimal : a.isDecimal = false) : m.isSignaling = false := by
  cases a with
  | bool b =>
    cases ha
    rfl
  | int n =>
    cases ha
    rfl
  | float x =>
    cases ha
    cases x with
    | nan => rfl
    | infinite negative => rfl
    | finite negative mantissa exponent =>
      rw [Decimal.ofBinary64]
      split <;> rfl
  | decimal d => cases hdecimal
  | _ => cases ha

/-- Numbers that can be compared are not NaNs. -/
theorem isSignaling_of_compare? {m n : Decimal} {order : Ordering}
    (h : m.compare? n = some order) : m.isSignaling = false ∧ n.isSignaling = false := by
  cases m with
  | nan => cases h
  | infinite | finite =>
    refine ⟨rfl, ?_⟩
    cases n with
    | nan => cases h
    | infinite | finite => rfl

/-- Values that hold no others cannot be ordered, or their equality and order are read off where
they stand to each other, if they do. -/
inductive AtomsOrdered (a b : Value) : Prop
  | refused (e : CompareError) (horder : orderAtoms a b = .error e)
      (hless : lessAtoms a b = .error e)
  | read (order : Option Ordering) (horder : orderAtoms a b = .ok order)
      (hless : lessAtoms a b = .ok (order.any Comparison.lt.holdsOf))
      (hequal : equalAtoms a b = .ok (order.any Comparison.eq.holdsOf))

theorem orderAtoms_of_numbers {a b : Value} {m n : Decimal} (ha : a.asNumber? = some m)
    (hb : b.asNumber? = some n) :
    orderAtoms a b = orderNumbers (a.isDecimal || b.isDecimal) m n := by
  unfold orderAtoms
  rw [ha, hb]

theorem atomsOrdered_numbers {a b : Value} {m n : Decimal} (ha : a.asNumber? = some m)
    (hb : b.asNumber? = some n) : AtomsOrdered a b := by
  have horder := orderAtoms_of_numbers ha hb
  cases hcompare : m.compare? n with
  | some order =>
    obtain ⟨hm, hn⟩ := isSignaling_of_compare? hcompare
    refine .read (some order) ?_ ?_ ?_
    · simp only [horder, orderNumbers, hcompare]
    · simp only [lessAtoms, ha, hb, hcompare]
      rfl
    · simp [equalAtoms, ha, hb, hcompare, hm, hn, Comparison.holdsOf]
  | none =>
    cases hdecimal : a.isDecimal || b.isDecimal with
    | true =>
      refine .refused .signalingNaN ?_ ?_
      · simp only [horder, orderNumbers, hcompare, hdecimal, if_true]
      · simp only [lessAtoms, ha, hb, hcompare, hdecimal, if_true]
    | false =>
      obtain ⟨hadecimal, hbdecimal⟩ := Bool.or_eq_false_iff.1 hdecimal
      have hm := isSignaling_of_not_isDecimal ha hadecimal
      have hn := isSignaling_of_not_isDecimal hb hbdecimal
      refine .read none ?_ ?_ ?_
      · simp [horder, orderNumbers, hcompare, hdecimal]
      · simp [lessAtoms, ha, hb, hcompare, hadecimal, hbdecimal]
      · simp [equalAtoms, ha, hb, hcompare, hm, hn]

theorem atomsOrdered (a b : Value) : AtomsOrdered a b := by
  cases atomsMeet a b with
  | numbers ha hb => exact atomsOrdered_numbers ha hb
  | ordered order horder hless hequal => exact .read (some order) horder hless hequal
  | unordered horder hless => exact .refused .unordered horder hless

theorem less_eq_ordered_of_others {a b : Value} (hless : less a b = lessAtoms a b)
    (hordered : ordered .lt a b = do return (← orderAtoms a b).any Comparison.lt.holdsOf) :
    less a b = ordered .lt a b := by
  rw [hless, hordered]
  cases atomsOrdered a b with
  | refused e horder hless => rw [horder, hless]; rfl
  | read order horder hless _ => rw [horder, hless]; rfl

mutual

/-- Whether a value is less than another is asked by the rule of their kind. -/
theorem less_eq_ordered (a b : Value) : less a b = ordered .lt a b := by
  cases meets a b with
  | left v o w => rw [ordered.eq_def]; rfl
  | right hv w o => rw [less_parameter_right hv, ordered_parameter_right hv]; rfl
  | lists xs ys =>
    rw [less.eq_def, ordered.eq_def]
    exact lessItems_eq_ordered xs ys
  | tuples xs ys =>
    rw [less.eq_def, ordered.eq_def]
    exact lessItems_eq_ordered xs ys
  | sets xs ys => rw [less.eq_def, ordered.eq_def]; rfl
  | others hless hordered _ => exact less_eq_ordered_of_others hless (hordered .lt)
termination_by sizeOf a + sizeOf b

theorem lessItems_eq_ordered (xs ys : List Value) : lessItems xs ys = orderedItems .lt xs ys := by
  have hlength : Comparison.lt.holdsOf (orderLengths xs ys) = decide (xs.length < ys.length) :=
    decide_cmp_lt
  match xs, ys with
  | x :: xs, y :: ys =>
    rw [lessItems.eq_def, orderedItems.eq_def]
    dsimp only
    rw [lessItems_eq_ordered xs ys, less_eq_ordered x y]
  | [], [] | [], _ :: _ | _ :: _, [] =>
    rw [lessItems.eq_def, orderedItems.eq_def]
    dsimp only
    rw [hlength]
    rfl
termination_by sizeOf xs + sizeOf ys

end

end Value

end TdsClient
