import TdsClient.Number.Total

/-!
# UTF-16

The server counts the characters of national text in UTF-16 code units:
one for a character of the basic plane and two for any other.

## Main results

* `size_pos`, `size_le_two` — a character takes one or two units.
* `length_append` — the units of a concatenation add up.
-/

namespace TdsClient.Text.Utf16

/-- Number of code units of a character. -/
def size (c : Char) : Nat := if c.toNat < 0x10000 then 1 else 2

theorem size_pos (c : Char) : 0 < size c := by unfold size; split <;> decide

theorem size_le_two (c : Char) : size c ≤ 2 := by unfold size; split <;> decide

/-- Number of code units of a text. -/
def length (text : String) : Nat := Number.total (text.toList.map size)

/-- The units of a concatenation add up. -/
theorem length_append (s t : String) : length (s ++ t) = length s + length t := by
  simp [length]

/-- The code units of a character. -/
def units (c : Char) : List Nat :=
  if c.toNat < 0x10000 then [c.toNat]
  else
    let rest := c.toNat - 0x10000
    [0xd800 + rest / 0x400, 0xdc00 + rest % 0x400]

/-- A character is written with `size` code units. -/
theorem length_units (c : Char) : (units c).length = size c := by
  unfold units size; split <;> rfl

end TdsClient.Text.Utf16
