import Mathlib.Data.List.Sort
import TdsClient.RowList

/-!
# The places of a slice

A slice begins somewhere in a sequence and goes on in steps, up or down, as
long as it does not reach its end. Each bound may be missing, may count from
the end of the sequence, or may lie outside of it. The places that a list of
rows makes for a slice are counted in advance, from bounds that were moved
into the sequence. Here they are found the other way round: each place of a
sequence is asked whether the slice selects it, with its bounds as given.

## Main definitions

* `RowList.Selects` — whether a slice selects a place.
* `RowList.selectedPlaces` — the places that a slice selects, in its direction.

## Main results

* `slicePlaces_eq_selectedPlaces` — these are the places of the slice.
-/

namespace TdsClient.RowList

/-! ## What a slice selects -/

/-- An index of a sequence; a negative one counts from the end. -/
def fromEnd (length : Nat) (index : Int) : Int := if index < 0 then index + length else index

/-- Where a slice begins: at the first place that it could select if the sequence went on. -/
def sliceStart (length : Nat) (start : Option Int) (step : Int) : Int :=
  if 0 < step then start.elim 0 fun i => max 0 (fromEnd length i)
  else start.elim (length - 1) fun i => min (length - 1) (fromEnd length i)

/-- Whether a slice selects a place: it gets there in steps from its start, and not beyond the index
at which it stops, if there is one. -/
def Selects (length : Nat) (start stop : Option Int) (step : Int) (place : Nat) : Prop :=
  step ∣ place - sliceStart length start step ∧
    if 0 < step then
      sliceStart length start step ≤ place ∧ ∀ index ∈ stop, place < fromEnd length index
    else place ≤ sliceStart length start step ∧ ∀ index ∈ stop, fromEnd length index < place

instance (length : Nat) (start stop : Option Int) (step : Int) (place : Nat) :
    Decidable (Selects length start stop step place) :=
  inferInstanceAs (Decidable (_ ∧ if 0 < step then _ else _))

/-- The places of a sequence that a slice selects, in the direction of its step. -/
def selectedPlaces (length : Nat) (start stop : Option Int) (step : Int) : List Nat :=
  (if 0 < step then List.range length else (List.range length).reverse).filter
    (Selects length start stop step ·)

theorem mem_selectedPlaces_iff {length : Nat} {start stop : Option Int} {step : Int} {place : Nat} :
    place ∈ selectedPlaces length start stop step ↔
      place < length ∧ Selects length start stop step place := by
  unfold selectedPlaces
  split <;> simp

/-! ## Places counted in advance -/

/-- The places are those at which so many steps lead from the start. -/
theorem stride_eq_map (start step : Int) (count : Nat) :
    stride start step count = (List.range count).map fun i : Nat => (start + i * step).toNat := by
  induction count generalizing start with
  | zero => rfl
  | succ count ih =>
      have hstep : ∀ i : Nat, start + step + i * step = start + (i + 1 : Nat) * step := by
        intro i
        rw [Int.natCast_add, Int.natCast_one, Int.add_mul, Int.one_mul]
        omega
      rw [stride, ih, List.range_succ_eq_map]
      simp [hstep, Function.comp_def]

/-- There are as many steps as stay short of a distance. -/
theorem lt_count_iff {step distance : Int} (hstep : 0 < step) (i : Nat) :
    i < ((distance + step - 1) / step).toNat ↔ (i : Int) * step < distance := by
  rw [Int.lt_toNat]
  have hle : ((i : Int) + 1) ≤ (distance + step - 1) / step ↔
      ((i : Int) + 1) * step ≤ distance + step - 1 := Int.le_ediv_iff_mul_le hstep
  rw [Int.add_mul, Int.one_mul] at hle
  omega

theorem mem_stride_iff {start step : Int} {count place : Nat} :
    place ∈ stride start step count ↔
      ∃ i : Nat, i < count ∧ (start + i * step).toNat = place := by
  simp [stride_eq_map]

/-! ## Bounds moved into the sequence -/

section

variable {length place : Nat} {start stop : Option Int} {step : Int}

theorem sliceStart_nonneg (hstep : 0 < step) : 0 ≤ sliceStart length start step := by
  unfold sliceStart
  rw [if_pos hstep]
  cases start with
  | none => exact Int.le_refl 0
  | some i => exact Int.le_max_left _ _

theorem sliceStart_le (hstep : ¬ 0 < step) : sliceStart length start step ≤ length - 1 := by
  unfold sliceStart
  rw [if_neg hstep]
  cases start with
  | none => exact Int.le_refl _
  | some i => exact Int.min_le_left _ _

theorem clamp_start_up (hstep : 0 < step) :
    clamp length 0 length start 0 = min (sliceStart length start step) length := by
  unfold sliceStart
  rw [if_pos hstep]
  cases start with
  | none =>
      simp only [clamp, Option.elim_none]
      omega
  | some i =>
      simp only [clamp, fromEnd, Option.elim_some]
      split <;> omega

theorem clamp_start_down (hstep : ¬ 0 < step) :
    clamp length (-1) (length - 1) start (length - 1) =
      max (sliceStart length start step) (-1) := by
  unfold sliceStart
  rw [if_neg hstep]
  cases start with
  | none =>
      simp only [clamp, Option.elim_none]
      omega
  | some i =>
      simp only [clamp, fromEnd, Option.elim_some]
      split <;> omega

theorem lt_clamp_stop_iff :
    (place : Int) < clamp length 0 length stop length ↔
      place < length ∧ ∀ index ∈ stop, place < fromEnd length index := by
  cases stop with
  | none => simp [clamp]
  | some i =>
      simp only [clamp, fromEnd, Option.mem_def, Option.some.injEq, forall_eq']
      split <;> omega

theorem clamp_stop_lt_iff (hplace : place < length) :
    clamp length (-1) (length - 1) stop (-1) < place ↔
      ∀ index ∈ stop, fromEnd length index < place := by
  cases stop with
  | none =>
      simp [clamp]
      omega
  | some i =>
      simp only [clamp, fromEnd, Option.mem_def, Option.some.injEq, forall_eq']
      split <;> omega

theorem le_clamp_stop : -1 ≤ clamp length (-1) (length - 1) stop (-1) := by
  cases stop with
  | none => exact Int.le_refl _
  | some i =>
      simp only [clamp]
      split <;> omega

/-! ## The places of a slice -/

/-- Going up, the places that are counted are those that are selected. -/
theorem mem_slicePlaces_up (hstep : 0 < step) :
    place ∈ slicePlaces length start stop step ↔
      place < length ∧ Selects length start stop step place := by
  unfold slicePlaces Selects
  rw [if_pos hstep, if_pos hstep, mem_stride_iff, clamp_start_up hstep]
  simp only [lt_count_iff hstep]
  have hnonneg : 0 ≤ sliceStart length start step := sliceStart_nonneg hstep
  generalize sliceStart length start step = first at hnonneg ⊢
  have hlast : (place : Int) < clamp length 0 length stop length ↔
      place < length ∧ ∀ index ∈ stop, place < fromEnd length index := lt_clamp_stop_iff
  generalize clamp length 0 length stop length = last at hlast ⊢
  constructor
  · rintro ⟨i, hi, hplace⟩
    have hsteps : 0 ≤ (i : Int) * step := Int.mul_nonneg (Int.natCast_nonneg i) (Int.le_of_lt hstep)
    obtain ⟨hinside, hstop⟩ := hlast.1 (by omega)
    have hfirst : (place : Int) - first = step * i := by
      rw [Int.mul_comm]
      omega
    exact ⟨hinside, ⟨i, hfirst⟩, by omega, hstop⟩
  · rintro ⟨hinside, ⟨k, hk⟩, hfirst, hstop⟩
    have hk' : 0 ≤ k := by
      by_contra hneg
      have hless : step * k < 0 := Int.mul_neg_of_pos_of_neg hstep (by omega)
      omega
    have hbefore := hlast.2 ⟨hinside, hstop⟩
    have hcast : (k.toNat : Int) * step = step * k := by
      rw [Int.toNat_of_nonneg hk', Int.mul_comm]
    exact ⟨k.toNat, by omega, by omega⟩

/-- So they are going down. -/
theorem mem_slicePlaces_down (hstep : step < 0) :
    place ∈ slicePlaces length start stop step ↔
      place < length ∧ Selects length start stop step place := by
  have hup : ¬ 0 < step := by omega
  have hback : 0 < -step := by omega
  have hcount : ∀ distance, distance - step - 1 = distance + -step - 1 := by omega
  unfold slicePlaces Selects
  rw [if_neg hup, if_pos hstep, if_neg hup, mem_stride_iff, clamp_start_down hup]
  simp only [hcount, lt_count_iff hback]
  have hinside : sliceStart length start step ≤ length - 1 := sliceStart_le hup
  generalize sliceStart length start step = first at hinside ⊢
  have hlast : place < length → (clamp length (-1) (length - 1) stop (-1) < place ↔
      ∀ index ∈ stop, fromEnd length index < place) := clamp_stop_lt_iff
  have hlow : -1 ≤ clamp length (-1) (length - 1) stop (-1) := le_clamp_stop
  generalize clamp length (-1) (length - 1) stop (-1) = last at hlast hlow ⊢
  constructor
  · rintro ⟨i, hi, hplace⟩
    have hsteps : 0 ≤ (i : Int) * -step := Int.mul_nonneg (Int.natCast_nonneg i) (by omega)
    have hneg : (i : Int) * -step = -(i * step) := Int.mul_neg _ _
    have hplace' : place < length := by omega
    have hfirst : (place : Int) - first = step * i := by
      rw [Int.mul_comm]
      omega
    exact ⟨hplace', ⟨i, hfirst⟩, by omega, (hlast hplace').1 (by omega)⟩
  · rintro ⟨hplace, ⟨k, hk⟩, hfirst, hstop⟩
    have hk' : 0 ≤ k := by
      by_contra hneg
      have hmore : 0 < step * k := Int.mul_pos_of_neg_of_neg hstep (by omega)
      omega
    have hbehind := (hlast hplace).2 hstop
    have hcast : (k.toNat : Int) * step = step * k := by
      rw [Int.toNat_of_nonneg hk', Int.mul_comm]
    have hneg : (k.toNat : Int) * -step = -(k.toNat * step) := Int.mul_neg _ _
    exact ⟨k.toNat, by omega, by omega⟩

/-- Steps that keep an order between places keep it between all of them. -/
theorem pairwise_stride {first : Int} {count : Nat} {r : Nat → Nat → Prop}
    (h : ∀ i j : Nat, i < j → j < count → r (first + i * step).toNat (first + j * step).toNat) :
    (stride first step count).Pairwise r := by
  rw [stride_eq_map, List.pairwise_map]
  refine List.pairwise_lt_range.imp_of_mem ?_
  intro i j hi hj hlt
  exact h i j hlt (List.mem_range.1 hj)

theorem pairwise_slicePlaces_up (hstep : 0 < step) :
    (slicePlaces length start stop step).Pairwise (· < ·) := by
  have hnonneg : 0 ≤ sliceStart length start step := sliceStart_nonneg hstep
  unfold slicePlaces
  rw [if_pos hstep]
  apply pairwise_stride
  intro i j hij _
  rw [clamp_start_up hstep]
  have hi : 0 ≤ (i : Int) * step := Int.mul_nonneg (Int.natCast_nonneg i) (Int.le_of_lt hstep)
  have hless : (i : Int) * step < j * step := Int.mul_lt_mul_of_pos_right (by omega) hstep
  omega

theorem pairwise_slicePlaces_down (hstep : step < 0) :
    (slicePlaces length start stop step).Pairwise (· > ·) := by
  have hlow : -1 ≤ clamp length (-1) (length - 1) stop (-1) := le_clamp_stop
  have hcount : ∀ distance, distance - step - 1 = distance + -step - 1 := by omega
  unfold slicePlaces
  rw [if_neg (by omega), if_pos hstep]
  apply pairwise_stride
  intro i j hij hj
  rw [hcount, lt_count_iff (by omega), Int.mul_neg] at hj
  have hless : (j : Int) * step < i * step := Int.mul_lt_mul_of_neg_right (by omega) hstep
  omega

end

/-- The places of a slice are those that it selects, in the direction of its step. -/
theorem slicePlaces_eq_selectedPlaces (length : Nat) (start stop : Option Int) {step : Int}
    (hstep : step ≠ 0) :
    slicePlaces length start stop step = selectedPlaces length start stop step := by
  rcases Int.lt_or_gt_of_ne hstep with hdown | hup
  · have hselected : (selectedPlaces length start stop step).Pairwise (· > ·) := by
      unfold selectedPlaces
      rw [if_neg (by omega)]
      exact (List.pairwise_reverse.2 List.pairwise_lt_range).filter _
    refine (pairwise_slicePlaces_down hdown).eq_of_mem_iff hselected fun place => ?_
    rw [mem_slicePlaces_down hdown, mem_selectedPlaces_iff]
  · have hselected : (selectedPlaces length start stop step).Pairwise (· < ·) := by
      unfold selectedPlaces
      rw [if_pos hup]
      exact List.pairwise_lt_range.filter _
    refine (pairwise_slicePlaces_up hup).eq_of_mem_iff hselected fun place => ?_
    rw [mem_slicePlaces_up hup, mem_selectedPlaces_iff]

/-- Down from beyond the end in steps of two, to before the second place. -/
example : selectedPlaces 6 (some 9) (some (-6)) (-2) = [5, 3, 1] := by decide

end TdsClient.RowList
