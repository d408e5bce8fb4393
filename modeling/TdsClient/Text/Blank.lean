import TdsClient.Text.CodeRange

/-!
# Blank characters

The blanks of any script: the white space characters of Unicode and the
four information separators.

## Main results

* `holds_of_isWhitespace` — every ASCII white space character is blank.
-/

namespace TdsClient.Text.Blank

/-- The blank characters. -/
def blanks : CodeRange where
  boundaries := [
    0x9, 0xe, 0x1c, 0x21, 0x85, 0x86, 0xa0, 0xa1, 0x1680, 0x1681, 0x2000, 0x200b, 0x2028,
    0x202a, 0x202f, 0x2030, 0x205f, 0x2060, 0x3000, 0x3001]

/-- Removes the blanks at both ends of a text. -/
def trim (text : List Char) : List Char :=
  ((text.dropWhile blanks.holds).reverse.dropWhile blanks.holds).reverse

/-- Every ASCII white space character is blank. -/
theorem holds_of_isWhitespace (c : Char) (h : c.isWhitespace = true) : blanks.holds c = true := by
  simp only [Char.isWhitespace, Bool.or_eq_true, decide_eq_true_eq] at h
  rcases h with ((rfl | rfl) | rfl) | rfl <;> rfl

end TdsClient.Text.Blank
