import TdsClient.Number.Total

/-!
# The longest prefix that fits

Cutting a text to a space that holds a given number of units, where each
character takes some units and is kept whole or not at all.

## Main results

* `take_sizes_le` — the kept prefix fits.
* `take_prefix` — it is a prefix.
* `take_eq_self` — a text that fits is kept.
-/

namespace TdsClient.Text.Fitting

variable {α : Type}

/-- The longest prefix of `text` whose characters take at most `space` units together. -/
def take (size : α → Nat) : Nat → List α → List α
  | _, [] => []
  | space, c :: rest => if size c ≤ space then c :: take size (space - size c) rest else []

/-- The kept prefix fits. -/
theorem take_sizes_le (size : α → Nat) (space : Nat) (text : List α) :
    Number.total ((take size space text).map size) ≤ space := by
  induction text generalizing space with
  | nil => simp [take]
  | cons c rest ih =>
    unfold take
    split
    · have := ih (space - size c)
      simp only [List.map_cons, Number.total_cons]
      omega
    · simp

/-- What is kept is a prefix. -/
theorem take_prefix (size : α → Nat) (space : Nat) (text : List α) :
    take size space text <+: text := by
  induction text generalizing space with
  | nil => simp [take]
  | cons c rest ih =>
    unfold take
    split
    · exact (List.prefix_cons_inj c).2 (ih _)
    · exact List.nil_prefix

/-- A text that fits is kept. -/
theorem take_eq_self (size : α → Nat) (space : Nat) (text : List α)
    (h : Number.total (text.map size) ≤ space) : take size space text = text := by
  induction text generalizing space with
  | nil => rfl
  | cons c rest ih =>
    simp only [List.map_cons, Number.total_cons] at h
    unfold take
    rw [if_pos (by omega), ih _ (by omega)]

end TdsClient.Text.Fitting
