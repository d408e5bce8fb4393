import TdsClient.Text.Charset

/-!
# Texts with surrogates

The texts of programs consist of code points. Most of them are characters,
but a program may also put into a text a code point that is reserved for
half of a surrogate pair. No code page has such a code point. In UTF-16 it
can be written, as the code unit of its own number, but it is not read back:
two halves that meet are read as the character of the pair, and any other
half is left out.

## Main definitions

* `CodePoint`, `Points` — code points, and texts of them.
* `Points.units` — a text in UTF-16.
* `Utf16.decode` — what code units are read as.
* `Points.cut` — a text that is cut in UTF-16.
-/

namespace TdsClient.Text

/-- A code point: a character, or one of the 2048 that are reserved for surrogates. -/
inductive CodePoint
  | character (c : Char)
  | surrogate (index : Fin 2048)
deriving DecidableEq

namespace CodePoint

/-- The first code point of the surrogates. -/
def firstSurrogate : Nat := 0xd800

/-- The number of a code point. -/
def toNat : CodePoint → Nat
  | .character c => c.toNat
  | .surrogate index => firstSurrogate + index

/-- The character that a code point is. -/
def character? : CodePoint → Option Char
  | .character c => some c
  | .surrogate _ => none

/-- The code units of a code point. A surrogate passes as it is. -/
def units : CodePoint → List Nat
  | .character c => Utf16.units c
  | .surrogate index => [firstSurrogate + index]

/-- Number of code units of a code point. -/
def size : CodePoint → Nat
  | .character c => Utf16.size c
  | .surrogate _ => 1

/-- A code point is written with `size` code units. -/
theorem length_units (p : CodePoint) : p.units.length = p.size := by
  cases p with
  | character c => exact Utf16.length_units c
  | surrogate index => rfl

end CodePoint

/-- A text of code points. -/
abbrev Points := List CodePoint

namespace Points

/-- A text of characters. -/
def ofList (text : List Char) : Points := text.map .character

/-- A text of characters. -/
def ofString (text : String) : Points := ofList text.toList

/-- The characters of a text, if it has nothing else. -/
def toString? (text : Points) : Option String := (text.mapM CodePoint.character?).map String.ofList

/-- The characters of a text without the surrogates. -/
def toString (text : Points) : String := String.ofList (text.filterMap CodePoint.character?)

/-- The code units of a text. -/
def units (text : Points) : List Nat := text.flatMap CodePoint.units

/-- A text of characters has no others. -/
theorem ofList_inj {text text' : List Char} : ofList text = ofList text' ↔ text = text' :=
  List.map_inj_right fun _ _ => CodePoint.character.inj

theorem mapM_character?_ofList (text : List Char) :
    (ofList text).mapM CodePoint.character? = some text := by
  induction text with
  | nil => rfl
  | cons c rest ih =>
    show List.mapM _ (.character c :: ofList rest) = _
    rw [List.mapM_cons, ih]
    rfl

@[simp]
theorem toString?_ofList (text : List Char) :
    (ofList text).toString? = some (String.ofList text) := by
  rw [toString?, mapM_character?_ofList, Option.map_some]

@[simp]
theorem toString?_ofString (text : String) : (ofString text).toString? = some text := by
  rw [ofString, toString?_ofList, String.ofList_toList]

/-- A text that has nothing but characters is made of them. -/
theorem eq_ofString {text : Points} {s : String} (h : text.toString? = some s) :
    text = ofString s := by
  obtain ⟨chars, hchars, rfl⟩ := Option.map_eq_some_iff.1 h
  rw [ofString, String.toList_ofList]
  clear h
  induction text generalizing chars with
  | nil =>
    cases hchars
    rfl
  | cons p rest ih =>
    rw [List.mapM_cons] at hchars
    obtain ⟨c, hc, hbehind⟩ := Option.bind_eq_some_iff.1 hchars
    obtain ⟨tail, htail, hcons⟩ := Option.bind_eq_some_iff.1 hbehind
    cases p with
    | surrogate index => cases hc
    | character c =>
      cases hc
      cases hcons
      exact congrArg (CodePoint.character c :: ·) (ih _ htail)

theorem filterMap_character?_ofList (text : List Char) :
    (ofList text).filterMap CodePoint.character? = text := by
  induction text with
  | nil => rfl
  | cons c rest ih => exact congrArg (c :: ·) ih

@[simp]
theorem toString_ofList (text : List Char) : (ofList text).toString = String.ofList text := by
  rw [toString, filterMap_character?_ofList]

@[simp]
theorem toString_ofString (text : String) : (ofString text).toString = text := by
  rw [ofString, toString_ofList, String.ofList_toList]

/-- The code units of a text add up. -/
theorem length_units (text : Points) :
    (units text).length = Number.total (text.map CodePoint.size) := by
  induction text with
  | nil => rfl
  | cons p rest ih =>
    rw [units, List.flatMap_cons, List.length_append, CodePoint.length_units, List.map_cons,
      Number.total_cons]
    exact congrArg (p.size + ·) ih

end Points

namespace Utf16

/-- Whether a code unit is the first half of a pair. -/
def isHigh (unit : Nat) : Bool := 0xd800 ≤ unit ∧ unit < 0xdc00

/-- Whether a code unit is the second half of a pair. -/
def isLow (unit : Nat) : Bool := 0xdc00 ≤ unit ∧ unit < 0xe000

/-- The character of a pair. -/
def ofPair (high low : Nat) : Char :=
  Char.ofNat (0x10000 + (high - 0xd800) * 0x400 + (low - 0xdc00))

/-- What code units are read as if a half of a pair without the other half is left out. -/
def decode : List Nat → List Char
  | [] => []
  | [unit] => if isHigh unit || isLow unit then [] else [Char.ofNat unit]
  | unit :: next :: rest =>
    if isHigh unit && isLow next then ofPair unit next :: decode rest
    else if isHigh unit || isLow unit then decode (next :: rest)
    else Char.ofNat unit :: decode (next :: rest)

end Utf16

/-- A text in a space of code units. If it is longer, its code units are cut, and what is left is
read again. -/
def Points.cut (space : Nat) (text : Points) : Points :=
  if space < text.units.length then ofList (Utf16.decode (text.units.take space)) else text

namespace Charset

/-- The character that a code point is sent as: one that the set does not have is replaced. -/
def standIn (set : Charset) : CodePoint → Char
  | .character c => if set.has c then c else set.replacement
  | .surrogate _ => set.replacement

/-- A known set has the character that a code point is sent as. -/
theorem has_standIn (set : Charset) (h : set.isKnown = true) (p : CodePoint) :
    set.has (set.standIn p) = true := by
  cases p with
  | surrogate index => exact set.has_replacement h
  | character c =>
    rw [standIn]
    split
    · assumption
    · exact set.has_replacement h

end Charset

end TdsClient.Text
