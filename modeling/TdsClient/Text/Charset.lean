import TdsClient.Text.Utf16

/-!
# Character sets of single byte strings

The code page of a connection decides which characters a `VARCHAR` can
hold and how many bytes each takes. Most sets give a byte to a character:
ASCII in the lower half and a table of their own in the upper half. The
two Unicode encodings hold every character.

A set is addressed by its usual name; a name that is no set of this
module is kept as `unknown`, and no text can be encoded in it.

## Main results

* `has_utf8`, `has_utf16le` — the Unicode encodings hold every character.
* `has_replacement` — a known set has its stand-in character.
-/

namespace TdsClient.Text

/-- A code page. One that is not known has a name at least, unless what was given is no name. -/
inductive Charset
  | ascii
  | latin1
  | latin9
  | cp1251
  | cp1252
  | utf8
  | utf16le
  | unknown (name : String)
  | unnamed
deriving DecidableEq

namespace Charset

/-- The name of a set. -/
def name : Charset → String
  | .ascii => "ascii"
  | .latin1 => "latin-1"
  | .latin9 => "iso-8859-15"
  | .cp1251 => "cp1251"
  | .cp1252 => "cp1252"
  | .utf8 => "utf-8"
  | .utf16le => "utf-16-le"
  | .unknown name => name
  | .unnamed => ""

/-- The sets that text can be encoded in. -/
def known : List Charset := [ascii, latin1, latin9, cp1251, cp1252, utf8, utf16le]

/-- The set of a name. -/
def ofName (name : String) : Charset :=
  (known.find? (·.name = name)).getD (unknown name)

/-- Whether text can be encoded in the set at all. -/
def isKnown : Charset → Bool
  | .unknown _ => false
  | .unnamed => false
  | _ => true

/-- Code points of the bytes from `0x80` in the Cyrillic Windows code page; zero marks a byte
that stands for nothing. -/
def cyrillicUpper : List Nat := [
  0x402, 0x403, 0x201a, 0x453, 0x201e, 0x2026, 0x2020, 0x2021, 0x20ac, 0x2030, 0x409, 0x2039,
  0x40a, 0x40c, 0x40b, 0x40f, 0x452, 0x2018, 0x2019, 0x201c, 0x201d, 0x2022, 0x2013, 0x2014,
  0x0, 0x2122, 0x459, 0x203a, 0x45a, 0x45c, 0x45b, 0x45f, 0xa0, 0x40e, 0x45e, 0x408, 0xa4,
  0x490, 0xa6, 0xa7, 0x401, 0xa9, 0x404, 0xab, 0xac, 0xad, 0xae, 0x407, 0xb0, 0xb1, 0x406,
  0x456, 0x491, 0xb5, 0xb6, 0xb7, 0x451, 0x2116, 0x454, 0xbb, 0x458, 0x405, 0x455, 0x457, 0x410,
  0x411, 0x412, 0x413, 0x414, 0x415, 0x416, 0x417, 0x418, 0x419, 0x41a, 0x41b, 0x41c, 0x41d,
  0x41e, 0x41f, 0x420, 0x421, 0x422, 0x423, 0x424, 0x425, 0x426, 0x427, 0x428, 0x429, 0x42a,
  0x42b, 0x42c, 0x42d, 0x42e, 0x42f, 0x430, 0x431, 0x432, 0x433, 0x434, 0x435, 0x436, 0x437,
  0x438, 0x439, 0x43a, 0x43b, 0x43c, 0x43d, 0x43e, 0x43f, 0x440, 0x441, 0x442, 0x443, 0x444,
  0x445, 0x446, 0x447, 0x448, 0x449, 0x44a, 0x44b, 0x44c, 0x44d, 0x44e, 0x44f]

/-- Code points of the bytes from `0x80` to `0x9f` in the Western Windows code page; the bytes
from `0xa0` stand for the code points of the same number. -/
def westernUpper : List Nat := [
  0x20ac, 0x0, 0x201a, 0x192, 0x201e, 0x2026, 0x2020, 0x2021, 0x2c6, 0x2030, 0x160, 0x2039,
  0x152, 0x0, 0x17d, 0x0, 0x0, 0x2018, 0x2019, 0x201c, 0x201d, 0x2022, 0x2013, 0x2014, 0x2dc,
  0x2122, 0x161, 0x203a, 0x153, 0x0, 0x17e, 0x178]

/-- Places where the ninth Latin set differs from the first. -/
def latin9Exceptions : List (Nat × Nat) := [
  (0xa4, 0x20ac), (0xa6, 0x160), (0xa8, 0x161), (0xb4, 0x17d),
  (0xb8, 0x17e), (0xbc, 0x152), (0xbd, 0x153), (0xbe, 0x178)]

/-- The byte of a character beyond ASCII in a single byte set. -/
def upperByte? (set : Charset) (code : Nat) : Option Nat :=
  match set with
  | .latin1 => if code < 0x100 then some code else none
  | .latin9 =>
    match latin9Exceptions.find? (·.2 = code) with
    | some (byte, _) => some byte
    | none => if code < 0x100 ∧ (latin9Exceptions.lookup code).isNone then some code else none
  | .cp1251 => (cyrillicUpper.idxOf? code).map (· + 0x80)
  | .cp1252 =>
    if 0xa0 ≤ code ∧ code < 0x100 then some code else (westernUpper.idxOf? code).map (· + 0x80)
  | _ => none

/-- The bytes of a character, if the set has it. -/
def encode? (set : Charset) (c : Char) : Option (List UInt8) :=
  match set with
  | .utf8 => some (String.utf8EncodeChar c)
  | .utf16le =>
    some ((Utf16.units c).flatMap fun unit =>
      [UInt8.ofNat (unit % 0x100), UInt8.ofNat (unit / 0x100)])
  | .unknown _ => none
  | .unnamed => none
  | _ =>
    if c.toNat < 0x80 then some [UInt8.ofNat c.toNat]
    else (upperByte? set c.toNat).map fun byte => [UInt8.ofNat byte]

/-- Whether a set has a character. -/
def has (set : Charset) (c : Char) : Bool := (set.encode? c).isSome

/-- Number of bytes of a character, zero for one that the set does not have. -/
def size (set : Charset) (c : Char) : Nat := ((set.encode? c).map List.length).getD 0

/-- The bytes of a text, if the set has all its characters. -/
def encodeText? (set : Charset) (text : String) : Option (List UInt8) :=
  (text.toList.mapM set.encode?).map List.flatten

/-- The character that stands in for those a set does not have. -/
def replacement (set : Charset) : Char :=
  if set.has (Char.ofNat 0xfffd) then Char.ofNat 0xfffd else '?'

/-- UTF-8 holds every character. -/
theorem has_utf8 (c : Char) : utf8.has c = true := rfl

/-- UTF-16 holds every character. -/
theorem has_utf16le (c : Char) : utf16le.has c = true := rfl

/-- Every known set has the stand-in character. -/
theorem has_replacement (set : Charset) (h : set.isKnown = true) :
    set.has set.replacement = true := by
  cases set with
  | unknown _ => simp [isKnown] at h
  | unnamed => simp [isKnown] at h
  | _ => rfl

end Charset

end TdsClient.Text
