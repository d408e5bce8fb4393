/-!
# Classes of characters

A class of characters is given by its boundaries: the ascending code
points where membership changes, the first one entering the class.
Membership of a code point is the parity of the number of boundaries at
or below it.
-/

namespace TdsClient.Text

/-- A set of code points as the ascending list of places where membership changes. -/
structure CodeRange where
  boundaries : List Nat
deriving DecidableEq

namespace CodeRange

/-- Whether a code point belongs to the class. -/
def contains (chars : CodeRange) (code : Nat) : Bool :=
  chars.boundaries.countP (· ≤ code) % 2 = 1

/-- Whether a character belongs to the class. -/
def holds (chars : CodeRange) (c : Char) : Bool := chars.contains c.toNat

end CodeRange

end TdsClient.Text
