/-!
# Rounding to the nearest integer

`halfEven` is the one rounding rule of the library: to the nearest
integer, and from the middle between two integers to the even one. It is
stated on rationals, so the caller scales by an exact power first.

## Main results

* `halfEven_intCast` — an integer is its own rounding.
* `halfEven_sub_le`, `sub_halfEven_le` — the rounding lies within half a
  unit of its argument, on either side.
-/

namespace TdsClient.Number.Rounding

/-- `x` to the nearest integer, a half going to the even neighbour. -/
def halfEven (x : Rat) : Int :=
  let low := x.floor
  let rest := x - low
  if rest < 1 / 2 then low
  else if 1 / 2 < rest then low + 1
  else if low % 2 = 0 then low
  else low + 1

/-- An integer is its own rounding. -/
theorem halfEven_intCast (n : Int) : halfEven (n : Rat) = n := by
  have h : (n : Rat) - (n : Rat) < 1 / 2 := by grind
  simp only [halfEven, Rat.floor_intCast, if_pos h]

/-- A rounding is at most half a unit above its argument. -/
theorem halfEven_sub_le (x : Rat) : (halfEven x : Rat) - x ≤ 1 / 2 := by
  have low := Rat.floor_le x
  simp only [halfEven]
  repeat' split
  all_goals grind

/-- A rounding is at most half a unit below its argument. -/
theorem sub_halfEven_le (x : Rat) : x - (halfEven x : Rat) ≤ 1 / 2 := by
  have high := Rat.lt_floor_add_one x
  simp only [halfEven]
  repeat' split
  all_goals grind

end TdsClient.Number.Rounding
