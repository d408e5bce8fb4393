import TdsClient.Proofs.Value.Ordered

/-!
# Comparisons of values in parameters

A parameter asks the value in it whether it equals or is less than another,
and derives the other four comparisons. It takes what is neither less nor
equal to be greater, and what is not less to be at least as great. That is
right of values that have an order. There are values that have none: a NaN
and any number, sets each of which has something that the other has not, and
lists and tuples that differ first in such values. A parameter with one of
them is greater than the other by its own account, though the values are not.

What the comparisons of two values say fits together all the same, whatever
the values hold, and they fail together. So this is the only way in which a
parameter differs from the value in it.

## Main definitions

* `Verdict`, `Verdict.IsSound` — what the comparisons of two values say.
* `Comparison.Overlooks` — what a derived comparison does not take into account.

## Main results

* `Value.compares` — the comparisons of any two values fit together.
* `Comparison.overlooks_nan`, `Comparison.overlooks_sets` — values in no order.
* `Comparison.ofParameter_eq_iff` — when a comparison of a parameter is that of
  the value in it.
-/

namespace TdsClient

/-! ## Verdicts -/

/-- What the six comparisons say of two values. -/
abbrev Verdict := Comparison → Bool

namespace Verdict

/-- The comparisons fit together: one of them is the negation and one the union of others, and of
those that exclude each other not both hold. Nothing says that one of them holds. -/
structure IsSound (v : Verdict) : Prop where
  ne : v .ne = !v .eq
  le : v .le = (v .lt || v .eq)
  lt_eq : v .lt = true → v .eq = false
  lt_gt : v .lt = true → v .gt = false
  lt_ge : v .lt = true → v .ge = false
  eq_gt : v .eq = true → v .gt = false

/-- What is said of two values in an order, or of two that are in none. -/
def ofOrder (order : Option Ordering) : Verdict
  | .ne => !order.any Comparison.eq.holdsOf
  | op => order.any op.holdsOf

/-- What a parameter makes of what is said of the value in it. -/
def derived (v : Verdict) : Verdict
  | .gt => !v .lt && !v .eq
  | .ge => !v .lt
  | op => v op

/-- What is said from the other side. -/
def swapped (v : Verdict) : Verdict := fun op => v op.swapped

variable {v : Verdict}

theorem isSound_ofOrder (order : Option Ordering) : (ofOrder order).IsSound := by
  cases order with
  | none => constructor <;> simp [ofOrder]
  | some order => cases order <;> constructor <;> decide

theorem IsSound.derived (hv : v.IsSound) : v.derived.IsSound := by
  constructor
  · exact hv.ne
  · exact hv.le
  · exact hv.lt_eq
  all_goals
    intro h
    simp only [Verdict.derived] at h ⊢
    simp [h]

/-- What a parameter on the right makes of it fits together, too. -/
theorem IsSound.swapped_derived (hv : v.IsSound) : v.derived.swapped.IsSound := by
  have hlt := hv.lt_eq
  constructor
  · exact hv.ne
  all_goals
    simp only [Verdict.derived, swapped, Comparison.swapped, hv.le]
    revert hlt
    cases v .lt <;> cases v .eq <;> simp

end Verdict

namespace Value

/-! ## All values -/

/-- The comparisons of two values fit together: those of order all fail alike, or all six say
something sound. -/
inductive Compares (a b : Value) : Prop
  | refused (e : CompareError)
      (h : ∀ op : Comparison, op.isOfOrder = true → op.ofValues a b = .error e)
  | judged (v : Verdict) (hv : v.IsSound) (h : ∀ op : Comparison, op.ofValues a b = .ok (v op))

/-- The comparisons of order are those by the rules of the kinds. -/
theorem ofValues_of_isOfOrder {op : Comparison} (hop : op.isOfOrder = true) (a b : Value) :
    op.ofValues a b = ordered op a b := by
  cases op with
  | eq => cases hop
  | ne => cases hop
  | _ => rfl

theorem Compares.of_ordered {a b : Value} {v : Verdict} (hv : v.IsSound)
    (hequal : equal a b = .ok (v .eq))
    (hordered : ∀ op : Comparison, op.isOfOrder = true → ordered op a b = .ok (v op)) :
    Compares a b := by
  refine .judged v hv fun op => ?_
  cases op with
  | eq => exact hequal
  | ne =>
    rw [hv.ne, Comparison.ofValues, hequal]
    rfl
  | _ => exact hordered _ rfl

/-- The comparisons of a parameter are its own. -/
theorem ofValues_parameter (op : Comparison) (v : Value) (o : Bool) (w : Value) :
    op.ofValues (.parameter v o) w = op.ofParameter (.parameter v o) w := by
  have hordered : ordered op (.parameter v o) w = op.ofParameter (.parameter v o) w := by
    rw [ordered.eq_def]
  cases op with
  | eq => rfl
  | ne => rfl
  | _ => exact hordered

/-- A parameter on the right is asked from its side. -/
theorem ofValues_parameter_right {v : Value} (hv : ∀ u o, v ≠ .parameter u o) (op : Comparison)
    (w : Value) (o : Bool) :
    op.ofValues v (.parameter w o) = op.swapped.ofParameter (.parameter w o) v := by
  cases op with
  | eq => exact equal_parameter_right hv w o
  | ne => exact congrArg (fun r => do return !(← r)) (equal_parameter_right hv w o)
  | _ => exact ordered_parameter_right hv _ w o

section

variable {v w : Value} (hless : less v w.bare = ordered .lt v w.bare) (o : Bool)
include hless

/-- When the order of the value in a parameter cannot be asked for, that of the parameter cannot
either. -/
theorem ofParameter_of_refused {e : CompareError}
    (h : ∀ op : Comparison, op.isOfOrder = true → op.ofValues v w.bare = .error e)
    {op : Comparison} (hop : op.isOfOrder = true) :
    op.ofParameter (.parameter v o) w = .error e := by
  have hlt : less (.parameter v o) w = .error e := by
    rw [less_parameter, hless]
    exact h .lt rfl
  cases op with
  | eq => cases hop
  | ne => cases hop
  | lt => exact hlt
  | _ =>
    rw [Comparison.ofParameter, hlt]
    rfl

/-- A parameter makes of what is said of the value in it what it derives from that. -/
theorem ofParameter_of_judged {u : Verdict} (hu : u.IsSound)
    (h : ∀ op : Comparison, op.ofValues v w.bare = .ok (u op)) (op : Comparison) :
    op.ofParameter (.parameter v o) w = .ok (u.derived op) := by
  have hlt : less (.parameter v o) w = .ok (u .lt) := by
    rw [less_parameter, hless]
    exact h .lt
  have heq : equal (.parameter v o) w = .ok (u .eq) := by
    rw [equal_parameter]
    exact h .eq
  cases op with
  | eq => exact heq
  | lt => exact hlt
  | ne =>
    show _ = Except.ok (u .ne)
    rw [Comparison.ofParameter, heq, hu.ne]
    rfl
  | le =>
    show _ = Except.ok (u .le)
    rw [Comparison.ofParameter, hlt, heq, hu.le]
    cases u .lt <;> rfl
  | gt =>
    rw [Comparison.ofParameter, hlt, heq, Verdict.derived]
    cases u .lt <;> rfl
  | ge =>
    rw [Comparison.ofParameter, hlt, Verdict.derived]
    rfl

end

/-- What the comparisons say of sequences: those of order all fail alike, or they say something
sound, by which the sequences are equal if the items at common positions are and they are of one
length. -/
inductive ItemsCompare (xs ys : List Value) : Prop
  | refused (e : CompareError)
      (h : ∀ op : Comparison, op.isOfOrder = true → orderedItems op xs ys = .error e)
  | judged (v : Verdict) (hv : v.IsSound) (same : Bool) (hsame : equalItems xs ys = .ok same)
      (hequal : v .eq = (same && decide (xs.length = ys.length)))
      (h : ∀ op : Comparison, op.isOfOrder = true → orderedItems op xs ys = .ok (v op))

/-- Sequences whose first items are equal compare like the rest of them. -/
theorem ItemsCompare.cons_equal {x y : Value} {xs ys : List Value} (hxy : equal x y = .ok true)
    (h : ItemsCompare xs ys) : ItemsCompare (x :: xs) (y :: ys) := by
  have hstep : ∀ op, orderedItems op (x :: xs) (y :: ys) = orderedItems op xs ys := fun op => by
    rw [orderedItems.eq_def]
    dsimp only
    rw [hxy]
    rfl
  cases h with
  | refused e h => exact .refused e fun op hop => (hstep op).trans (h op hop)
  | judged v hv same hsame hequal h =>
    refine .judged v hv same ?_ ?_ fun op hop => (hstep op).trans (h op hop)
    · rw [equalItems, hxy]
      exact hsame
    · simpa using hequal

/-- Sequences whose first items are not equal compare like these. -/
theorem ItemsCompare.cons_unequal {x y : Value} {xs ys : List Value}
    (hxy : equal x y = .ok false) (h : Compares x y) : ItemsCompare (x :: xs) (y :: ys) := by
  have hstep : ∀ {op : Comparison}, op.isOfOrder = true →
      orderedItems op (x :: xs) (y :: ys) = op.ofValues x y := fun {op} hop => by
    rw [ofValues_of_isOfOrder hop, orderedItems.eq_def]
    dsimp only
    rw [hxy]
    rfl
  cases h with
  | refused e h => exact .refused e fun op hop => (hstep hop).trans (h op hop)
  | judged v hv h =>
    have hunequal : v .eq = false := Except.ok.inj ((h .eq).symm.trans hxy)
    refine .judged v hv false ?_ ?_ fun op hop => (hstep hop).trans (h op)
    · rw [equalItems, hxy]
      rfl
    · rw [hunequal, Bool.false_and]

/-- Sequences whose first items cannot be compared cannot be, either. -/
theorem ItemsCompare.cons_error {x y : Value} {xs ys : List Value} {e : CompareError}
    (hxy : equal x y = .error e) : ItemsCompare (x :: xs) (y :: ys) := by
  refine .refused e fun op _ => ?_
  rw [orderedItems.eq_def]
  dsimp only
  rw [hxy]
  rfl

/-- Sequences of which one is the front of the other compare by length. -/
theorem ItemsCompare.of_lengths {xs ys : List Value} (hsame : equalItems xs ys = .ok true)
    (h : ∀ op, orderedItems op xs ys = .ok (op.holdsOf (orderLengths xs ys))) :
    ItemsCompare xs ys := by
  refine .judged (.ofOrder (some (orderLengths xs ys))) (Verdict.isSound_ofOrder _) true hsame
    ?_ fun op hop => ?_
  · rw [Bool.true_and]
    exact decide_cmp_eq
  · rw [h op]
    cases op with
    | ne => cases hop
    | _ => rfl

theorem Compares.lists {xs ys : List Value} (h : ItemsCompare xs ys) :
    Compares (.list xs) (.list ys) := by
  have hordered : ∀ op, ordered op (.list xs) (.list ys) = orderedItems op xs ys := fun op => by
    rw [ordered.eq_def]
  cases h with
  | refused e h =>
    refine .refused e fun op hop => ?_
    rw [ofValues_of_isOfOrder hop, hordered, h op hop]
  | judged v hv same hsame hequal h =>
    refine .of_ordered hv ?_ fun op hop => (hordered op).trans (h op hop)
    rw [equal.eq_def, hequal]
    dsimp only
    rw [hsame]
    by_cases hlength : xs.length = ys.length
    · simp [hlength]
    · simp [hlength]

theorem Compares.tuples {xs ys : List Value} (h : ItemsCompare xs ys) :
    Compares (.tuple xs) (.tuple ys) := by
  have hordered : ∀ op, ordered op (.tuple xs) (.tuple ys) = orderedItems op xs ys := fun op => by
    rw [ordered.eq_def]
  cases h with
  | refused e h =>
    refine .refused e fun op hop => ?_
    rw [ofValues_of_isOfOrder hop, hordered, h op hop]
  | judged v hv same hsame hequal h =>
    refine .of_ordered hv ?_ fun op hop => (hordered op).trans (h op hop)
    rw [equal.eq_def, hequal]
    dsimp only
    rw [hsame]
    cases same <;> rfl

/-- Of two sets the smaller one may be a part of the other. -/
theorem Compares.sets (xs ys : List Value) : Compares (.set xs) (.set ys) := by
  have hsound : Verdict.IsSound fun op => op.ofSets xs ys := by
    refine ⟨rfl, ?_, ?_, ?_, ?_, ?_⟩
    all_goals
      simp only [Comparison.ofSets]
      grind
  refine .of_ordered hsound ?_ fun op _ => ?_
  · rw [equal.eq_def]
    rfl
  · rw [ordered.eq_def]

theorem Compares.others {a b : Value}
    (hordered : ∀ op, ordered op a b = do return (← orderAtoms a b).any op.holdsOf)
    (hequal : ∀ order, orderAtoms a b = .ok order → equal a b = equalAtoms a b) :
    Compares a b := by
  cases atomsOrdered a b with
  | refused e horder _ =>
    refine .refused e fun op hop => ?_
    rw [ofValues_of_isOfOrder hop, hordered, horder]
    rfl
  | read order horder _ hatoms =>
    refine .of_ordered (Verdict.isSound_ofOrder order) ?_ fun op hop => ?_
    · rw [hequal order horder, hatoms]
      rfl
    · rw [hordered, horder]
      cases op with
      | ne => cases hop
      | _ => rfl

theorem Compares.left {v w : Value} (o : Bool) (h : Compares v w.bare) :
    Compares (.parameter v o) w := by
  have hless := less_eq_ordered v w.bare
  cases h with
  | refused e h =>
    refine .refused e fun op hop => ?_
    rw [ofValues_parameter]
    exact ofParameter_of_refused hless o h hop
  | judged u hu h =>
    refine .judged u.derived hu.derived fun op => ?_
    rw [ofValues_parameter]
    exact ofParameter_of_judged hless o hu h op

theorem Compares.right {v w : Value} (hv : ∀ u o, v ≠ .parameter u o) (o : Bool)
    (h : Compares w v) : Compares v (.parameter w o) := by
  have hless := less_eq_ordered w v.bare
  rw [← bare_of_ne hv] at h
  cases h with
  | refused e h =>
    refine .refused e fun op hop => ?_
    rw [ofValues_parameter_right hv]
    refine ofParameter_of_refused hless o h ?_
    cases op <;> exact hop
  | judged u hu h =>
    refine .judged u.derived.swapped hu.swapped_derived fun op => ?_
    rw [ofValues_parameter_right hv]
    exact ofParameter_of_judged hless o hu h op.swapped

theorem sizeOf_bare (w : Value) : sizeOf w.bare ≤ sizeOf w := by
  cases w with
  | parameter u o =>
    simp only [bare, parameter.sizeOf_spec]
    omega
  | _ => exact Nat.le_refl _

mutual

/-- However two values are made up, their comparisons fit together. -/
theorem compares (a b : Value) : Compares a b := by
  cases meets a b with
  | left v o w =>
    have hsize := sizeOf_bare b
    exact .left o (compares v b.bare)
  | right hv w o => exact .right hv o (compares w a)
  | lists xs ys => exact .lists (itemsCompare xs ys)
  | tuples xs ys => exact .tuples (itemsCompare xs ys)
  | sets xs ys => exact .sets xs ys
  | others _ hordered hequal => exact .others hordered hequal
termination_by sizeOf a + sizeOf b

theorem itemsCompare (xs ys : List Value) : ItemsCompare xs ys := by
  match xs, ys with
  | x :: xs, y :: ys =>
    cases hxy : equal x y with
    | error e => exact .cons_error hxy
    | ok same =>
      cases same with
      | true => exact .cons_equal hxy (itemsCompare xs ys)
      | false => exact .cons_unequal hxy (compares x y)
  | [], ys =>
    refine .of_lengths ?_ fun op => ?_
    · rw [equalItems.eq_def]
    · rw [orderedItems.eq_def]
  | x :: xs, [] =>
    refine .of_lengths ?_ fun op => ?_
    · rw [equalItems.eq_def]
    · rw [orderedItems.eq_def]
termination_by sizeOf xs + sizeOf ys

end

end Value

namespace Comparison

/-- What a derived comparison does not take into account: that of two values that are not equal
neither may be less than the other, and that the one may be neither less than the other nor at
least as great. -/
inductive Overlooks : Comparison → Value → Value → Prop
  | gt {a b : Value} (hlt : lt.ofValues a b = .ok false) (heq : eq.ofValues a b = .ok false)
      (hgt : gt.ofValues a b = .ok false) : Overlooks .gt a b
  | ge {a b : Value} (hlt : lt.ofValues a b = .ok false) (hge : ge.ofValues a b = .ok false) :
      Overlooks .ge a b

/-- What a parameter derives is what is said of the value in it, unless something is overlooked. -/
theorem derived_eq_iff {v : Verdict} (hv : v.IsSound) {a b : Value}
    (h : ∀ op : Comparison, op.ofValues a b = .ok (v op)) (op : Comparison) :
    v.derived op = v op ↔ ¬ op.Overlooks a b := by
  have hfalse : ∀ op : Comparison, op.ofValues a b = .ok false → v op = false := fun op hop =>
    Except.ok.inj ((h op).symm.trans hop)
  constructor
  · intro hsame hover
    cases hover with
    | gt hlt heq hgt => simp [Verdict.derived, hfalse _ hlt, hfalse _ heq, hfalse _ hgt] at hsame
    | ge hlt hge => simp [Verdict.derived, hfalse _ hlt, hfalse _ hge] at hsame
  · intro hnot
    cases op with
    | gt =>
      cases hlt : v .lt with
      | true => simp [Verdict.derived, hlt, hv.lt_gt hlt]
      | false =>
        cases heq : v .eq with
        | true => simp [Verdict.derived, heq, hv.eq_gt heq]
        | false =>
          have hgt : v .gt ≠ false := fun hgt =>
            hnot (.gt ((h _).trans (congrArg _ hlt)) ((h _).trans (congrArg _ heq))
              ((h _).trans (congrArg _ hgt)))
          simp [Verdict.derived, hlt, heq, Bool.of_not_eq_false hgt]
    | ge =>
      cases hlt : v .lt with
      | true => simp [Verdict.derived, hlt, hv.lt_ge hlt]
      | false =>
        have hge : v .ge ≠ false := fun hge =>
          hnot (.ge ((h _).trans (congrArg _ hlt)) ((h _).trans (congrArg _ hge)))
        simp [Verdict.derived, hlt, Bool.of_not_eq_false hge]
    | _ => rfl

/-- A NaN is in no order with any number, if there is no decimal number with which it signals. -/
theorem overlooks_nan {a b : Value} {m n : Number.Decimal} (ha : a.asNumber? = some m)
    (hb : b.asNumber? = some n) (hnan : m.isNaN = true ∨ n.isNaN = true)
    (hadecimal : a.isDecimal = false) (hbdecimal : b.isDecimal = false) :
    gt.Overlooks a b ∧ ge.Overlooks a b := by
  have hcompare : m.compare? n = none := by
    unfold Number.Decimal.compare?
    rw [if_pos (by simpa using hnan)]
  have hnone : Value.orderAtoms a b = .ok none := by
    simp [Value.orderAtoms_of_numbers ha hb, Value.orderNumbers, hcompare, hadecimal, hbdecimal]
  have hfalse : ∀ op : Comparison, op ≠ .ne → op.ofValues a b = .ok false := by
    intro op hop
    cases Value.meets a b with
    | left | lists | tuples | sets => cases ha
    | right => cases hb
    | others _ hordered hequal =>
      cases op with
      | ne => exact absurd rfl hop
      | eq =>
        cases Value.atomsOrdered a b with
        | refused e horder _ => cases hnone.symm.trans horder
        | read order horder _ hatoms =>
          cases hnone.symm.trans horder
          exact (hequal none hnone).trans hatoms
      | _ => exact (hordered _).trans (by rw [hnone]; rfl)
  have hlt := hfalse .lt (by decide)
  exact ⟨.gt hlt (hfalse .eq (by decide)) (hfalse .gt (by decide)),
    .ge hlt (hfalse .ge (by decide))⟩

/-- Two sets each of which has something that the other has not are in no order. -/
theorem overlooks_sets {xs ys : List Value} (hleft : Value.isSubset xs ys = false)
    (hright : Value.isSubset ys xs = false) :
    gt.Overlooks (.set xs) (.set ys) ∧ ge.Overlooks (.set xs) (.set ys) := by
  have hordered : ∀ op : Comparison, op.isOfOrder = true →
      op.ofValues (.set xs) (.set ys) = .ok (op.ofSets xs ys) := fun op hop => by
    rw [Value.ofValues_of_isOfOrder hop, Value.ordered.eq_def]
  have hequal : eq.ofValues (.set xs) (.set ys) = .ok false := by
    rw [ofValues, Value.equal.eq_def]
    simp [hleft]
  refine ⟨.gt ?_ hequal ?_, .ge ?_ ?_⟩
  all_goals
    rw [hordered _ rfl]
    simp [ofSets, hleft, hright]

/-- A comparison of a parameter, with a value or with another parameter, gives what it gives for the
value in it, and with the value in the other, if and only if it does not overlook that these are in
no order. It fails if and only if it does so for these values, and for the same reason. -/
theorem ofParameter_eq_iff (op : Comparison) (a : Value) (output : Bool) (b : Value) :
    (op.ofParameter (.parameter a output) b = op.ofValues a b.bare ↔
      ¬ op.Overlooks a b.bare) ∧
    ∀ e, op.ofParameter (.parameter a output) b = .error e ↔ op.ofValues a b.bare = .error e := by
  have hless := Value.less_eq_ordered a b.bare
  cases Value.compares a b.bare with
  | judged v hv h =>
    rw [Value.ofParameter_of_judged hless output hv h, h op]
    refine ⟨?_, fun e => ⟨nofun, nofun⟩⟩
    rw [Except.ok.injEq]
    exact derived_eq_iff hv h op
  | refused e h =>
    have hsame : op.ofParameter (.parameter a output) b = op.ofValues a b.bare := by
      cases op with
      | eq => exact Value.equal_parameter a output b
      | ne => exact congrArg (fun r => do return !(← r)) (Value.equal_parameter a output b)
      | _ => exact (Value.ofParameter_of_refused hless output h rfl).trans (h _ rfl).symm
    have hnot : ¬ op.Overlooks a b.bare := by
      intro hover
      cases hover with
      | gt hlt _ _ => cases (h .lt rfl).symm.trans hlt
      | ge hlt _ => cases (h .lt rfl).symm.trans hlt
    exact ⟨⟨fun _ => hnot, fun _ => hsame⟩, fun e => by rw [hsame]⟩

/-- A NaN is not greater than a number, but a parameter with it is by its own account. -/
theorem parameter_nan_greater :
    gt.ofValues (.float .nan) (.int 1) = .ok false ∧
      gt.ofParameter (.parameter (.float .nan) false) (.int 1) = .ok true := by
  have hlt : (Value.float .nan).less (.int 1) = .ok false := by
    rw [Value.less.eq_def]
    rfl
  have heq : (Value.float .nan).equal (.int 1) = .ok false := by
    rw [Value.equal.eq_def]
    rfl
  constructor
  · rw [Value.ofValues_of_isOfOrder rfl, Value.ordered.eq_def]
    rfl
  · have hbare : (Value.int 1).bare = .int 1 := rfl
    rw [ofParameter, Value.less_parameter, Value.equal_parameter, hbare, hlt, heq]
    rfl

end Comparison

end TdsClient
