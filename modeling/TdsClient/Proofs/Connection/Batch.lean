import TdsClient.Proofs.Connection.BulkRow

/-!
# Rows in batches

The rows that are inserted are cut into batches of a size, of which the
last one may be smaller. Something that is no row leaves the batch it would
have been in incomplete, so of the rows before it those in full batches are
inserted.

## Main definitions

* `CutInto` — a list and its parts.
* `wholeBatches` — the number of rows in the full batches among some.
* `refusedAt` — where the first value stands that is no row.
* `insertedOf` — the values that are inserted.

## Main results

* `CutInto.cons` — a full part in front of others.
* `wholeBatches_of_room`, `wholeBatches_of_full` — full batches, one by one.
* `isRow_of_mem_insertedOf` — only rows are inserted.
-/

namespace TdsClient.Connection

variable {α : Type}

/-! ## Batches -/

/-- Parts of a list that are not empty, of which all but the last have exactly the length of a
limit. Without a limit the list is in one part. -/
structure CutInto (limit : Option Nat) (items : List α) (parts : List (List α)) : Prop where
  joined : parts.flatten = items
  nonempty : ∀ part ∈ parts, part ≠ []
  full : ∀ part ∈ parts.dropLast, limit = some part.length
  fits : ∀ part ∈ parts, ∀ size ∈ limit, part.length ≤ size

namespace CutInto

variable {limit : Option Nat} {items part : List α} {parts : List (List α)}

theorem nil (limit : Option Nat) : CutInto limit ([] : List α) [] where
  joined := rfl
  nonempty := nofun
  full := nofun
  fits := nofun

theorem singleton (hpart : part ≠ []) (hfits : ∀ size ∈ limit, part.length ≤ size) :
    CutInto limit part [part] where
  joined := List.flatten_singleton ..
  nonempty := List.forall_mem_singleton.2 hpart
  full := nofun
  fits := List.forall_mem_singleton.2 hfits

/-- A full part in front. -/
theorem cons (hpart : part ≠ []) (hfull : limit = some part.length)
    (h : CutInto limit items parts) : CutInto limit (part ++ items) (part :: parts) where
  joined := by rw [List.flatten_cons, h.joined]
  nonempty := List.forall_mem_cons.2 ⟨hpart, h.nonempty⟩
  full := by
    cases parts with
    | nil => nofun
    | cons next later => exact List.forall_mem_cons.2 ⟨hfull, h.full⟩
  fits := by
    refine List.forall_mem_cons.2 ⟨fun size hsize => ?_, h.fits⟩
    rw [hfull] at hsize
    cases hsize
    exact Nat.le_refl _

end CutInto

/-- The number of rows in full batches among some; without a limit no batch is ever full. -/
def wholeBatches (limit : Option Nat) (rows : Nat) : Nat :=
  match limit with
  | some size => size * (rows / size)
  | none => 0

theorem wholeBatches_le (limit : Option Nat) (rows : Nat) : wholeBatches limit rows ≤ rows := by
  cases limit with
  | none => exact Nat.zero_le rows
  | some size => exact Nat.mul_div_le rows size

namespace BulkCopy

variable {b : BulkCopy}

/-- A batch of less rows than the limit has room. -/
theorem isFull_eq_false_iff (batch : List (List Value)) :
    b.isFull batch = false ↔ ∀ size ∈ b.batchSize, batch.length < size := by
  unfold isFull
  cases b.batchSize <;> simp

/-- As long as a batch has room, there is no full one. -/
theorem wholeBatches_of_room {batch : List (List Value)} (hroom : b.isFull batch = false) :
    wholeBatches b.batchSize batch.length = 0 := by
  rw [isFull_eq_false_iff] at hroom
  cases hsize : b.batchSize with
  | none => rfl
  | some size =>
      have hless := hroom size hsize
      show size * (batch.length / size) = 0
      rw [Nat.div_eq_of_lt hless, Nat.mul_zero]

/-- A batch that had room is full with a further row if it has as many rows as the limit says. -/
theorem batchSize_of_isFull {batch : List (List Value)} {row : List Value}
    (hroom : b.isFull batch = false) (hfull : b.isFull (batch ++ [row]) = true) :
    b.batchSize = some (batch ++ [row]).length := by
  rw [isFull_eq_false_iff] at hroom
  unfold isFull at hfull
  cases hsize : b.batchSize with
  | none =>
      rw [hsize] at hfull
      cases hfull
  | some size =>
      rw [hsize] at hfull
      have hless := hroom size hsize
      have hle : size ≤ (batch ++ [row]).length := of_decide_eq_true hfull
      rw [List.length_append, List.length_singleton] at hle ⊢
      rw [Nat.le_antisymm hle hless]

/-- A full batch comes before the others. -/
theorem wholeBatches_of_full {batch : List (List Value)} (hbatch : batch ≠ [])
    (hsize : b.batchSize = some batch.length) (rows : Nat) :
    wholeBatches b.batchSize (batch.length + rows) =
      batch.length + wholeBatches b.batchSize rows := by
  have hpos := List.length_pos_iff.2 hbatch
  rw [hsize]
  show batch.length * ((batch.length + rows) / batch.length) = _
  rw [Nat.add_div_left rows hpos, Nat.mul_succ, Nat.add_comm]
  rfl

end BulkCopy

/-- A limit is at least one. -/
theorem batchLimit_pos {value : Value} {size : Nat} (h : batchLimit value = .ok (some size)) :
    0 < size := by
  unfold batchLimit at h
  split at h
  · cases h
  · split at h
    · cases h
    · cases h
      omega
  · cases h

/-! ## Values that are no rows -/

/-- The number of rows before the first of some values that is no row. -/
def refusedAt (columns : List Column) (items : List Value) : Nat :=
  items.findIdx fun row => decide ¬IsRow columns row

theorem refusedAt_cons_of_isRow {columns : List Column} {row : Value} (hrow : IsRow columns row)
    (rest : List Value) : refusedAt columns (row :: rest) = refusedAt columns rest + 1 := by
  unfold refusedAt
  rw [List.findIdx_cons, decide_eq_false (not_not_intro hrow)]
  rfl

theorem refusedAt_cons_of_not_isRow {columns : List Column} {row : Value}
    (hrow : ¬IsRow columns row) (rest : List Value) : refusedAt columns (row :: rest) = 0 := by
  unfold refusedAt
  rw [List.findIdx_cons, decide_eq_true hrow]
  rfl

/-- The values before the first that is no row are rows. -/
theorem isRow_of_mem_take {columns : List Column} {items : List Value} {row : Value}
    (h : row ∈ items.take (refusedAt columns items)) : IsRow columns row := by
  obtain ⟨i, hi, rfl⟩ := List.mem_take_iff_getElem.1 h
  have hbefore := List.not_of_lt_findIdx (Nat.lt_min.1 hi).1
  simpa using hbefore

/-- The values that are inserted of some: all if they are rows, and otherwise those in the full
batches before the first that is not. -/
def insertedOf (limit : Option Nat) (columns : List Column) (items : List Value) : List Value :=
  if refusedAt columns items < items.length then
    items.take (wholeBatches limit (refusedAt columns items))
  else items

/-- Only rows are inserted. -/
theorem isRow_of_mem_insertedOf {limit : Option Nat} {columns : List Column} {items : List Value}
    {row : Value} (h : row ∈ insertedOf limit columns items) : IsRow columns row := by
  unfold insertedOf at h
  split at h
  next hrefused =>
    have hwhole := wholeBatches_le limit (refusedAt columns items)
    exact isRow_of_mem_take (List.take_subset_take_left items hwhole h)
  next hall =>
    have hitems := List.take_of_length_le (Nat.le_of_not_lt hall)
    exact isRow_of_mem_take (hitems.symm ▸ h)

end TdsClient.Connection
