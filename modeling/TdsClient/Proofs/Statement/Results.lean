import TdsClient.Proofs.Value.Literal
import TdsClient.Statement.Parameter

/-!
# Equality and hashes of results

Results are equal if their values are, and numbers of all kinds, byte
strings of all kinds, and sets and dictionaries in any order can be equal.
The hash of a result is that of the literal of its value, which tells the
kind of the value, how many digits a number has been given, and the order
of a set. So equal results have one hash only if they are one value, and
results that are equal otherwise are kept apart in sets and dictionaries.

## Main results

* `sameHash_iff` — when two results have the same hash.
* `equal_not_sameHash` — results that are equal and hash differently.
-/

namespace TdsClient

open Number

namespace BoundResult

variable {r s : BoundResult}

/-- Two results made apart have the same hash exactly if both are input, or both are output of the
same value, one that shows no identity. Sizes that are not shown make no difference. -/
theorem sameHash_iff (hr : ∀ v ∈ r.value?, v.isWellFormed = true)
    (hs : ∀ v ∈ s.value?, v.isWellFormed = true) :
    r.sameHash s = true ↔
      r.value?.map Value.unsized = s.value?.map Value.unsized ∧
        ∀ v ∈ r.value?, v.showsIdentity = false := by
  cases r with
  | input => cases s <;> simp [sameHash, value?]
  | output a =>
      cases s with
      | input => simp [sameHash, value?]
      | output b =>
          have hvalues := Value.sameLiteral_iff (hr a rfl) (hs b rfl)
          simpa [sameHash, value?] using hvalues

/-- One half in a list with two and a half, and the same with another digit: the results are equal,
and have different hashes. -/
theorem sameHash_iff_digits :
    let half : Value := .float (.finite false 4503599627370496 (-53))
    let r := output (.list [half, .decimal (.finite false 250 (-2))])
    let s := output (.list [half, .decimal (.finite false 25 (-1))])
    (∀ v ∈ r.value?, v.isWellFormed = true) ∧ (∀ v ∈ s.value?, v.isWellFormed = true) ∧
      r.equal s = .ok true ∧ r.sameHash s = false := by
  intro half r s
  have hwf : ∀ d : Decimal, ∀ v ∈ (output (.list [half, .decimal d])).value?,
      v.isWellFormed = true := by
    rintro d v ⟨⟩
    have hhalf : Binary64.inFormat (.finite false 4503599627370496 (-53)) = true := by decide
    simp [Value.isWellFormed, Value.unsized, Value.unsizedItems, Value.isPlain, Value.arePlain,
      half, hhalf]
  have hequal : r.equal s = .ok true := by decide +kernel
  have hdiffer : r.value?.map Value.unsized ≠ s.value?.map Value.unsized := by
    simp [r, s, value?, Value.unsized, Value.unsizedItems]
  have hhash : r.sameHash s = false :=
    Bool.eq_false_iff.2 fun h => hdiffer ((sameHash_iff (hwf _) (hwf _)).1 h).1
  exact ⟨hwf _, hwf _, hequal, hhash⟩

/-- One and *true* are equal results with different hashes. -/
theorem equal_not_sameHash :
    (output (.int 1)).equal (output (.bool true)) = .ok true ∧
      (output (.int 1)).sameHash (output (.bool true)) = false := by
  decide +kernel

end BoundResult

end TdsClient
