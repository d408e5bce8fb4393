/-!
# Totals

The sum of a list of natural numbers, such as the sizes of the characters
of a text or the rows that results still have.

## Main results

* `total_nil`, `total_cons`, `total_append` — the total over the pieces of a list.
-/

namespace TdsClient.Number

/-- The sum of natural numbers. -/
def total : List Nat → Nat
  | [] => 0
  | n :: rest => n + total rest

@[simp]
theorem total_nil : total [] = 0 := rfl

@[simp]
theorem total_cons (n : Nat) (rest : List Nat) : total (n :: rest) = n + total rest := rfl

/-- The totals of two lists add up. -/
@[simp]
theorem total_append (ns ms : List Nat) : total (ns ++ ms) = total ns + total ms := by
  induction ns with
  | nil => simp
  | cons n rest ih => simp [ih, Nat.add_assoc]

end TdsClient.Number
