import TdsClient.Number.Digits

/-!
# Universally unique identifiers

An identifier is a word of 128 bits. It is written as 32 hexadecimal
digits in lower case, in groups of eight, four, four, four and twelve;
reading takes either case and does not mind where the dashes stand.
-/

namespace TdsClient

/-- A universally unique identifier. -/
structure Uuid where
  word : BitVec 128
deriving DecidableEq

namespace Uuid

/-- The value of a hexadecimal digit of either case. -/
def hexDigit? (c : Char) : Option Nat :=
  if c.isDigit then some (c.toNat - '0'.toNat)
  else if 'a' ≤ c ∧ c ≤ 'f' then some (c.toNat - 'a'.toNat + 10)
  else if 'A' ≤ c ∧ c ≤ 'F' then some (c.toNat - 'A'.toNat + 10)
  else none

/-- Reads 32 hexadecimal digits among any number of dashes. -/
def parse? (text : String) : Option Uuid :=
  let digits := text.toList.filter (· ≠ '-')
  if digits.length = 32 then
    (digits.mapM hexDigit?).map fun ds => ⟨BitVec.ofNat 128 (ds.foldl (fun n d => 16 * n + d) 0)⟩
  else none

/-- The written form. -/
def text (u : Uuid) : String :=
  let digits := (Number.Digits.hex 32 u.word.toNat).toList
  let group (start length : Nat) := String.ofList ((digits.drop start).take length)
  "-".intercalate [group 0 8, group 8 4, group 12 4, group 16 4, group 20 12]

end Uuid

end TdsClient
