import TdsClient.Error

/-!
# Protocol versions

The version that client and server agree on decides which types exist:
unbounded strings from 7.2 on, dates and times of their own from 7.3 on.
The major and minor version are the first byte of the number.

## Main definitions

* `Version.hasMax`, `Version.hasTemporal` — what a version can carry.
* `Version.name?`, `Version.ofName` — the dotted form and back.

## Main results

* `name?_of_mem` — a supported version has the name it is looked up by.
-/

namespace TdsClient

/-- A protocol version by its number. -/
structure Version where
  number : Int
deriving DecidableEq

namespace Version

@[match_pattern] def v70 : Version := ⟨0x70000000⟩
@[match_pattern] def v71 : Version := ⟨0x71000000⟩
@[match_pattern] def v72 : Version := ⟨0x72090002⟩
@[match_pattern] def v73 : Version := ⟨0x730A0003⟩
@[match_pattern] def v74 : Version := ⟨0x74000004⟩

/-- The supported versions by name. -/
def supported : List (String × Version) :=
  [("7.0", v70), ("7.1", v71), ("7.2", v72), ("7.3", v73), ("7.4", v74)]

/-- Whether strings without bound exist, and row counts of remote calls are reported. -/
def hasMax (v : Version) : Bool := v72.number ≤ v.number

/-- Whether dates and times have types of their own. -/
def hasTemporal (v : Version) : Bool := v73.number ≤ v.number

/-- The byte that holds major and minor version. -/
def release (v : Version) : Int := v.number / 0x1000000

/-- The dotted form of a version's release. -/
def name? (v : Version) : Option String :=
  (supported.find? (·.2.release = v.release)).map (·.1)

/-- The version of a name; the newest one if none is asked for. -/
def ofName (name : Value) : Except Error Version :=
  match name with
  | .null => .ok v74
  | .text s =>
    match supported.lookup s with
    | some v => .ok v
    | none => .error (.interface (.unsupportedVersion name))
  | _ => .error (.interface (.unsupportedVersion name))

/-- A supported version has the name it is looked up by. -/
theorem name?_of_mem : ∀ entry ∈ supported, entry.2.name? = some entry.1 := by
  decide

end Version

end TdsClient
