import TdsClient.Proofs.Text.Surrogate

/-!
# Strings of an explicit size

A wrapper of a string of variable length may have an explicit size. It is
the size that is reported and declared, and a value that is longer is cut.
Byte strings are counted in bytes, text of the code page in the bytes of its
encoding, and national text in UTF-16 code units. Without an explicit size
nothing is cut, and the size is the length of what is sent.

What is left of a value is the longest front of it that fits, in whole bytes
or characters, with one exception: when national text is cut, no surrogate in
it is left as it is. So the exception is national text that is too long and
has a surrogate among what fits.

## Main definitions

* `StringFamily`, `StringFamily.Content` — the strings of variable length.
* `Inference.bindSized` — how they are sent.
* `Inference.IsLongestFront` — how much of a value should be kept.
* `StringFamily.DropsSurrogate` — the exception.
* `Inference.SentSized` — type, value and size of what is sent.

## Main results

* `isLongestFront_national_iff` — the exception is one.
* `bindSized_sent` — every wrapped string is sent that way.
-/

namespace TdsClient

open Text

/-- The wrappers of strings of variable length. -/
inductive StringFamily
  | binary
  | codePage
  | national
deriving DecidableEq

namespace StringFamily

/-- What strings of a family consist of. -/
def Item : StringFamily → Type
  | .binary => UInt8
  | .codePage => CodePoint
  | .national => CodePoint

/-- The strings of a family. -/
abbrev Content (family : StringFamily) : Type := List family.Item

/-- Wraps a value in a string of a family, with an explicit size or without. -/
def wrap : StringFamily → Value → Option Int → Except Misuse (Typed Value)
  | .binary => Wrapped.varBinary
  | .codePage => Wrapped.varChar
  | .national => Wrapped.nvarChar

/-- A value is a string of a family, or null. -/
def IsContent : (family : StringFamily) → Value → Option family.Content → Prop
  | _, .null, content => content = none
  | .binary, .bytes b, content => content = some b
  | .binary, .byteArray b, content => content = some b
  | .binary, .memoryView b, content => content = some b
  | .codePage, .text s, content => content = some (Points.ofString s)
  | .national, .text s, content => content = some (Points.ofString s)
  | _, _, _ => False

/-- A string of a family, or null, as a value. -/
def toValue : (family : StringFamily) → Option family.Content → Value
  | .binary => Inference.bytesOrNull
  | .codePage => Inference.textOrNull
  | .national => Inference.textOrNull

/-- The size of a null that has no explicit one. -/
def least : StringFamily → Nat
  | .binary => 0
  | .codePage => 1
  | .national => 0

/-- Largest size of a sized type. -/
def limit : StringFamily → Nat
  | .binary => 8000
  | .codePage => 8000
  | .national => 4000

/-- The type of a size. -/
def sized : StringFamily → Nat → SqlType
  | .binary => .varBinary
  | .codePage => .varChar
  | .national => .nvarChar

/-- National text is longer than a space and has a surrogate in a front that fits. -/
def DropsSurrogate (space : Nat) : (family : StringFamily) → family.Content → Prop
  | .national, whole => space < (Points.units whole).length ∧
      ∃ front index, front <+: whole ∧ (Points.units front).length ≤ space ∧
        CodePoint.surrogate index ∈ front
  | _, _ => False

end StringFamily

namespace Inference

/-- A string of variable length, or null, with its own or an explicit size. -/
def bindSized (i : Inference) : (family : StringFamily) → Option family.Content → Option Nat →
    Reported (BoundAs (Option family.Content))
  | .binary, content, size => pure (i.bindVarBinary content size)
  | .codePage, content, size => i.bindVarChar content size
  | .national, content, size => pure (i.bindNVarChar content size)

/-- The type above the limit. For text of the code page it is the same for every version. -/
def long (i : Inference) : StringFamily → SqlType
  | .binary => i.longBinary
  | .codePage => .text
  | .national => i.longNationalText

/-- The type that is declared for a size. -/
def declared (i : Inference) (family : StringFamily) (size : Nat) : SqlType :=
  if size ≤ family.limit then family.sized size else i.long family

/-- A type of a family has room for a length. -/
def HasRoom (i : Inference) (family : StringFamily) (type : SqlType) (length : Nat) : Prop :=
  type = i.long family ∨ ∃ size, type = family.sized size ∧ length ≤ size

/-- A string as it can be sent: in text of the code page every code point that the code page does
not have is replaced. -/
def encodable (i : Inference) : (family : StringFamily) → family.Content → family.Content
  | .binary, whole => whole
  | .codePage, whole => Points.ofList (whole.map i.charset.standIn)
  | .national, whole => whole

/-- The bytes of a text in the code page, if it has all of it. -/
def bytes? (i : Inference) (text : Points) : Option (List UInt8) :=
  text.toString?.bind i.charset.encodeText?

/-- The length of a string as its family counts it. -/
def length? (i : Inference) : (family : StringFamily) → family.Content → Option Nat
  | .binary, b => some (List.length b)
  | .codePage, text => (i.bytes? text).map List.length
  | .national, text => some (Points.units text).length

/-- A string is not longer than a space. -/
def FitsIn (i : Inference) (family : StringFamily) (space : Nat) (front : family.Content) : Prop :=
  ∃ length, i.length? family front = some length ∧ length ≤ space

/-- The longest front of a string that fits into a space. -/
def IsLongestFront (i : Inference) (family : StringFamily) (space : Nat)
    (whole kept : family.Content) : Prop :=
  kept <+: whole ∧ i.FitsIn family space kept ∧
    ∀ front, front <+: whole → i.FitsIn family space front → front <+: kept

/-- What is left if the bytes of a string are cut and what is no character is ignored. A code unit
of national text has two bytes, and national text that is not too long stays as it is. -/
def IsLeftOf (i : Inference) (space : Nat) :
    (family : StringFamily) → (whole kept : family.Content) → Prop
  | .binary, whole, kept => kept = List.take space whole
  | .codePage, whole, kept => ∃ bytes, i.bytes? whole = some bytes ∧
      ∀ text, i.charset.Decodes (bytes.take space) text ↔ kept = Points.ofList text
  | .national, whole, kept =>
      if (Points.units whole).length ≤ space then kept = whole
      else ∀ text, Charset.utf16le.Decodes
        (((Points.units whole).flatMap Charset.unitBytes).take (2 * space)) text ↔
          kept = Points.ofList text

/-- How a string, or null, is sent with an explicit size or without. -/
structure SentSized (i : Inference) (family : StringFamily) (content : Option family.Content)
    (size : Option Nat) (b : BoundAs (Option family.Content)) : Prop where
  /-- The type is that of the reported size, but never empty. -/
  declared : b.type = i.declared family (max b.size.toNat 1)
  /-- An explicit size is reported and declared. -/
  explicit : ∀ space, size = some space → b.size = space ∧ b.type = i.declared family space
  /-- Null stays null, with its explicit size or the least one. -/
  null : content = none → b.value = none ∧ b.size = size.getD family.least
  /-- With an explicit size a string is cut. Unless a surrogate is dropped, this leaves the longest
  front that fits. -/
  cut : ∀ whole space, content = some whole → size = some space →
    ∃ kept, b.value = some kept ∧ (¬ family.DropsSurrogate space whole →
      i.IsLongestFront family space (i.encodable family whole) kept ∧
        i.IsLeftOf space family (i.encodable family whole) kept)
  /-- Without one all of a string is sent, with its own length, for which the type has room. -/
  whole : ∀ whole, content = some whole → size = none →
    b.value = some (i.encodable family whole) ∧
      ∃ length : Nat, i.length? family (i.encodable family whole) = some length ∧
        b.size = length ∧ i.HasRoom family b.type length

variable {i : Inference} {family : StringFamily}

/-! ## Longest fronts -/

/-- The front of a string, in the unit in which its fronts are counted. -/
theorem isLongestFront_take (i : Inference) (family : StringFamily) {count : family.Item → Nat}
    {whole : family.Content}
    (hlength : ∀ front, front <+: whole →
      i.length? family front = some (Number.total (front.map count))) (space : Nat) :
    i.IsLongestFront family space whole (Fitting.take count space whole) := by
  have hkept := Fitting.take_prefix count space whole
  refine ⟨hkept, ⟨_, hlength _ hkept, Fitting.take_sizes_le count space whole⟩, ?_⟩
  rintro front hfront ⟨length, hfits, hle⟩
  rw [hlength front hfront] at hfits
  cases hfits
  exact Fitting.prefix_take count space hfront hle

/-- A string that fits is its own longest front. -/
theorem isLongestFront_self {space : Nat} {whole : family.Content}
    (hfits : i.FitsIn family space whole) : i.IsLongestFront family space whole whole :=
  ⟨List.prefix_refl whole, hfits, fun _ hfront _ => hfront⟩

/-- The front of a byte string. -/
theorem isLongestFront_bytes (i : Inference) (space : Nat) (b : Bytes) :
    i.IsLongestFront .binary space b (b.take space) := by
  refine ⟨List.take_prefix space b, ⟨_, rfl, List.length_take_le space b⟩, ?_⟩
  rintro front hfront ⟨length, hlength, hle⟩
  cases hlength
  exact List.prefix_take_iff.2 ⟨hfront, hle⟩

/-! ## Text of the code page -/

/-- The bytes of a text of characters. -/
theorem bytes?_ofList (i : Inference) (text : List Char) :
    i.bytes? (Points.ofList text) = i.charset.encodeText? (String.ofList text) := by
  rw [bytes?, Points.toString?_ofList, Option.bind_some]

/-- Text that the code page has takes as many bytes as its characters. -/
theorem length?_codePage {text front : List Char} (h : ∀ c ∈ text, i.charset.has c = true)
    (hfront : front <+: text) :
    i.length? .codePage (Points.ofList front) =
      some (Number.total (front.map i.charset.size)) := by
  have hmissing : i.charset.missing (String.ofList front) = [] := by
    rw [i.charset.missing_eq_nil_iff, String.toList_ofList]
    exact fun c hc => h c (hfront.mem hc)
  obtain ⟨bytes, hbytes, hlength⟩ := i.charset.encodeText?_of_has _ hmissing
  show (i.bytes? (Points.ofList front)).map List.length = _
  rw [i.bytes?_ofList, hbytes, Option.map_some, hlength, String.toList_ofList]

/-- Of text that the code page has the characters that fit are the longest front. -/
theorem isLongestFront_codePage {text : List Char} (h : ∀ c ∈ text, i.charset.has c = true)
    (space : Nat) :
    i.IsLongestFront .codePage space (Points.ofList text)
      (Points.ofList (Fitting.take i.charset.size space text)) := by
  have hkept := Fitting.take_prefix i.charset.size space text
  refine ⟨hkept.map _, ⟨_, length?_codePage h hkept, Fitting.take_sizes_le _ space text⟩, ?_⟩
  rintro front hfront ⟨length, hfits, hle⟩
  obtain ⟨chars, hchars, rfl⟩ := List.prefix_map_iff.1 hfront
  have hcount := (length?_codePage h hchars).symm.trans hfits
  cases hcount
  exact (Fitting.prefix_take i.charset.size space hchars hle).map _

/-- If the bytes of text are cut, the characters that fit are left. -/
theorem isLeftOf_codePage {text : List Char} {bytes : List UInt8}
    (hbytes : i.charset.encodeText? (String.ofList text) = some bytes) (space : Nat) :
    i.IsLeftOf space .codePage (Points.ofList text)
      (Points.ofList (Fitting.take i.charset.size space text)) := by
  refine ⟨bytes, (i.bytes?_ofList text).trans hbytes, fun kept => ?_⟩
  rw [i.charset.decodes_take_iff hbytes, String.toList_ofList]
  exact ⟨fun hkept => hkept ▸ rfl, fun hkept => (Points.ofList_inj.1 hkept).symm⟩

/-! ## National text -/

/-- National text is left as it is, or its code units are cut and read again. -/
theorem isLeftOf_national (i : Inference) (space : Nat) (whole : Points) :
    i.IsLeftOf space .national whole (whole.cut space) := by
  show if whole.units.length ≤ space then _ = whole else ∀ text, _ ↔ _ = Points.ofList text
  unfold Points.cut
  by_cases hlong : space < whole.units.length
  · have hread := Utf16.decodes_decode (whole.units.take space)
      fun unit hunit => whole.units_lt unit (List.mem_of_mem_take hunit)
    rw [if_neg (Nat.not_le_of_lt hlong), if_pos hlong]
    intro text
    rw [Charset.take_flatMap_unitBytes]
    constructor
    · intro htext
      rw [hread.unique htext]
    · intro hsame
      rw [← Points.ofList_inj.1 hsame]
      exact hread
  · rw [if_pos (Nat.le_of_not_lt hlong), if_neg hlong]

/-- What is left of national text is the longest front that fits unless a surrogate is dropped. -/
theorem isLongestFront_national_iff (i : Inference) (space : Nat) (whole : Points) :
    i.IsLongestFront .national space whole (whole.cut space) ↔
      ¬ StringFamily.national.DropsSurrogate space whole := by
  by_cases hlong : space < whole.units.length
  · constructor
    · rintro ⟨-, -, hlongest⟩ ⟨-, front, index, hfront, hfits, hmem⟩
      have hkept := hlongest front hfront ⟨_, rfl, hfits⟩
      rw [Points.cut, if_pos hlong] at hkept
      exact Points.isPlain_ofList _ index (hkept.mem hmem)
    · intro hplain
      have hfront := Fitting.take_prefix CodePoint.size space whole
      have htake : Points.IsPlain (Fitting.take CodePoint.size space whole) := by
        intro index hmem
        refine hplain ⟨hlong, _, index, hfront, ?_, hmem⟩
        rw [Points.length_units]
        exact Fitting.take_sizes_le CodePoint.size space whole
      rw [Points.cut_eq_take htake]
      exact i.isLongestFront_take .national
        (fun front _ => congrArg some (Points.length_units front)) space
  · rw [Points.cut, if_neg hlong]
    exact iff_of_true (isLongestFront_self ⟨_, rfl, Nat.le_of_not_lt hlong⟩)
      fun hdrops => hlong hdrops.1

/-! ## Declarations -/

/-- A string of a size. -/
def boundOf {α : Type} (i : Inference) : StringFamily → α → Nat → BoundAs α
  | .binary => i.boundBinary
  | .codePage => boundText
  | .national => i.boundNationalText

/-- A string of a size is declared for it. -/
theorem boundOf_eq {α : Type} (i : Inference) (family : StringFamily) (v : α) (n : Nat) :
    i.boundOf family v n = ⟨i.declared family (max n 1), v, n⟩ := by
  have hdeclared : ∀ sized long : SqlType, ∀ limit : Nat, 1 ≤ limit →
      (if limit < n then long else sized) = if max n 1 ≤ limit then sized else long := by
    intro sized long limit hlimit
    by_cases hlong : limit < n
    · rw [if_pos hlong, if_neg (by omega)]
    · rw [if_neg hlong, if_pos (by omega)]
  cases family with
  | binary => exact congrArg (BoundAs.mk · v n) (hdeclared _ _ 8000 (by decide))
  | codePage => exact congrArg (BoundAs.mk · v n) (hdeclared _ _ 8000 (by decide))
  | national => exact congrArg (BoundAs.mk · v n) (hdeclared _ _ 4000 (by decide))

/-- The type that is declared for a length has room for it. -/
theorem hasRoom_declared (i : Inference) (family : StringFamily) (n : Nat) :
    i.HasRoom family (i.declared family (max n 1)) n := by
  unfold declared
  split
  · exact .inr ⟨_, rfl, Nat.le_max_left n 1⟩
  · exact .inl rfl

/-! ## The ways to send a string -/

/-- Null is sent with an explicit size or the least one. -/
theorem sentSized_null {size : Option Nat} (hpos : ∀ space, size = some space → 1 ≤ space) :
    i.SentSized family none size (i.boundOf family none (size.getD family.least)) := by
  rw [boundOf_eq]
  refine ⟨rfl, fun space hspace => ?_, fun _ => ⟨rfl, rfl⟩, nofun, nofun⟩
  cases hspace
  exact ⟨rfl, by rw [Option.getD_some, Nat.max_eq_left (hpos space rfl)]⟩

/-- What is left in an explicit size is sent with that size. -/
theorem sentSized_cut (i : Inference) (family : StringFamily) {space : Nat}
    {whole kept : family.Content} (hpos : 1 ≤ space)
    (hfront : ¬ family.DropsSurrogate space whole →
      i.IsLongestFront family space (i.encodable family whole) kept)
    (hleft : i.IsLeftOf space family (i.encodable family whole) kept) :
    i.SentSized family (some whole) (some space) (i.boundOf family (some kept) space) := by
  rw [boundOf_eq]
  refine ⟨rfl, fun space' hspace => ?_, nofun, fun whole' space' hwhole hspace => ?_, nofun⟩
  · cases hspace
    exact ⟨rfl, by rw [Nat.max_eq_left hpos]⟩
  · cases hwhole
    cases hspace
    exact ⟨kept, rfl, fun hkept => ⟨hfront hkept, hleft⟩⟩

/-- Without an explicit size all of a string is sent. -/
theorem sentSized_whole (i : Inference) (family : StringFamily) {whole : family.Content} {n : Nat}
    (hlength : i.length? family (i.encodable family whole) = some n) :
    i.SentSized family (some whole) none
      (i.boundOf family (some (i.encodable family whole)) n) := by
  rw [boundOf_eq]
  refine ⟨rfl, nofun, nofun, nofun, fun whole' hwhole _ => ?_⟩
  cases hwhole
  exact ⟨rfl, n, hlength, rfl, i.hasRoom_declared family n⟩

/-- A byte string. -/
theorem sentSized_binary (i : Inference) (content : Option Bytes) {size : Option Nat}
    (hpos : ∀ space, size = some space → 1 ≤ space) :
    i.SentSized .binary content size (i.bindVarBinary content size) := by
  cases content with
  | none => exact sentSized_null hpos
  | some b =>
      cases size with
      | none => exact i.sentSized_whole .binary rfl
      | some space =>
          exact i.sentSized_cut .binary (hpos space rfl)
            (fun _ => i.isLongestFront_bytes space b) rfl

/-- National text. -/
theorem sentSized_national (i : Inference) (content : Option Points) {size : Option Nat}
    (hpos : ∀ space, size = some space → 1 ≤ space) :
    i.SentSized .national content size (i.bindNVarChar content size) := by
  cases content with
  | none => exact sentSized_null hpos
  | some text =>
      cases size with
      | none => exact i.sentSized_whole .national rfl
      | some space =>
          exact i.sentSized_cut .national (hpos space rfl)
            (i.isLongestFront_national_iff space text).2 (i.isLeftOf_national space text)

/-- Text of the code page. -/
theorem sentSized_codePage (i : Inference) (hknown : i.charset.isKnown = true)
    (content : Option Points) {size : Option Nat}
    (hpos : ∀ space, size = some space → 1 ≤ space) :
    ∃ b, (i.bindVarChar content size).result = .ok b ∧ i.SentSized .codePage content size b := by
  cases content with
  | none => exact ⟨_, rfl, sentSized_null hpos⟩
  | some text =>
      obtain ⟨bytes, hbytes, hencoded⟩ := i.encodePoints_eq hknown text
      have hhas : ∀ c ∈ text.map i.charset.standIn, i.charset.has c = true := by
        intro c hc
        obtain ⟨p, -, rfl⟩ := List.mem_map.1 hc
        exact i.charset.has_standIn hknown p
      have hlength : i.length? .codePage (i.encodable .codePage text) = some bytes.length := by
        show (i.bytes? (Points.ofList _)).map List.length = _
        rw [i.bytes?_ofList, hbytes, Option.map_some]
      have hsent : Points.ofString (String.ofList (text.map i.charset.standIn)) =
          i.encodable .codePage text := congrArg Points.ofList String.toList_ofList
      cases size with
      | none =>
          refine ⟨_, ?_, i.sentSized_whole .codePage hlength⟩
          show (i.encodePoints text >>= _).result = _
          rw [hencoded, ← hsent]
          rfl
      | some space =>
          refine ⟨_, ?_, i.sentSized_cut .codePage (hpos space rfl)
            (fun _ => isLongestFront_codePage hhas space) (isLeftOf_codePage hbytes space)⟩
          show (i.encodePoints text >>= _).result = _
          rw [hencoded]
          by_cases hlong : space < bytes.length
          · show (if space < bytes.length then _ else _ :
              Reported (BoundAs (Option Points))).result = _
            rw [if_pos hlong, String.toList_ofList]
            rfl
          · have htotal := (length?_codePage hhas (List.prefix_refl _)).symm.trans hlength
            have hkept := Fitting.take_eq_self i.charset.size space
              (text.map i.charset.standIn) (by rw [Option.some.inj htotal]; omega)
            show (if space < bytes.length then _ else _ :
              Reported (BoundAs (Option Points))).result = _
            rw [if_neg hlong, hkept, hsent]
            rfl

/-! ## Wrapped strings -/

/-- An accepted size is positive. -/
theorem of_checkSize {size : Option Int} {explicit : Option Nat}
    (h : Wrapped.checkSize size = .ok explicit) :
    size = explicit.map Int.ofNat ∧ ∀ space, explicit = some space → 1 ≤ space := by
  cases size with
  | none =>
      cases h
      exact ⟨rfl, nofun⟩
  | some n =>
      unfold Wrapped.checkSize at h
      dsimp only at h
      by_cases hsmall : n < 1
      · rw [if_pos hsmall] at h
        cases h
      · rw [if_neg hsmall] at h
        cases h
        refine ⟨congrArg some (Int.toNat_of_nonneg (by omega)).symm, fun space hspace => ?_⟩
        cases hspace
        omega

/-- A wrapper holds a value that was checked and an explicit size that was. -/
theorem of_wrapped {content : Type} {checked : Except Misuse content} {size : Option Int}
    {make : content → Option Nat → Typed Value} {w : Typed Value}
    (h : (do let c ← checked; let explicit ← Wrapped.checkSize size; .ok (make c explicit)) =
      Except.ok w) :
    ∃ c explicit, checked = .ok c ∧ w = make c explicit ∧ size = explicit.map Int.ofNat ∧
      ∀ space, explicit = some space → 1 ≤ space := by
  cases checked with
  | error cause => cases h
  | ok c =>
      cases hsize : Wrapped.checkSize size with
      | error cause =>
          rw [hsize] at h
          cases h
      | ok explicit =>
          rw [hsize] at h
          cases h
          exact ⟨c, explicit, rfl, rfl, of_checkSize hsize⟩

/-- Text that is accepted is text or null. -/
theorem of_checkText {value : Value} {content : Option String}
    (h : Wrapped.checkText value = .ok content) :
    StringFamily.codePage.IsContent value (content.map Points.ofString) ∧
      StringFamily.national.IsContent value (content.map Points.ofString) := by
  cases value with
  | null =>
      cases h
      exact ⟨rfl, rfl⟩
  | text s =>
      cases h
      exact ⟨rfl, rfl⟩
  | _ => cases h

/-- A byte string that is accepted is one of some kind, or null. -/
theorem of_checkBytes {value : Value} {content : Option Bytes}
    (h : Wrapped.checkBytes value = .ok content) :
    StringFamily.binary.IsContent value content := by
  cases value with
  | null =>
      cases h
      rfl
  | bytes b =>
      cases h
      rfl
  | byteArray b =>
      cases h
      rfl
  | memoryView b =>
      cases h
      rfl
  | _ => cases h

/-- Every string of variable length can be sent, for every protocol version and every known code
page. With an explicit size it is cut, and what is left is the longest front that fits unless a
surrogate is dropped; the size is reported, and declared as long as there is a type of it. Without
one nothing is cut, the size is the length of what is sent, and the type has room for it. Null is
declared likewise. A wrapped value is sent as the string that it holds. -/
theorem bindSized_sent (i : Inference) (hknown : i.charset.isKnown = true)
    (family : StringFamily) :
    (∀ (content : Option family.Content) (size : Option Nat),
      (∀ space, size = some space → 1 ≤ space) →
        ∃ b, (i.bindSized family content size).result = .ok b ∧
          i.SentSized family content size b) ∧
    ∀ (minimize : Bool) (value : Value) (size : Option Int) (w : Typed Value),
      family.wrap value size = .ok w →
        ∃ content explicit, family.IsContent value content ∧ size = explicit.map Int.ofNat ∧
          (∀ space, explicit = some space → 1 ≤ space) ∧
          i.bind minimize (.typed w) = do
            let b ← i.bindSized family content explicit
            return b.map family.toValue := by
  cases family with
  | binary =>
      refine ⟨fun content _ hpos => ⟨_, rfl, i.sentSized_binary content hpos⟩, ?_⟩
      intro minimize value size w hw
      obtain ⟨content, explicit, hchecked, rfl, hsize, hpos⟩ := of_wrapped hw
      exact ⟨_, explicit, of_checkBytes hchecked, hsize, hpos, rfl⟩
  | codePage =>
      refine ⟨fun content _ hpos => i.sentSized_codePage hknown content hpos, ?_⟩
      intro minimize value size w hw
      obtain ⟨content, explicit, hchecked, rfl, hsize, hpos⟩ := of_wrapped hw
      exact ⟨_, explicit, (of_checkText hchecked).1, hsize, hpos, rfl⟩
  | national =>
      refine ⟨fun content _ hpos => ⟨_, rfl, i.sentSized_national content hpos⟩, ?_⟩
      intro minimize value size w hw
      obtain ⟨content, explicit, hchecked, rfl, hsize, hpos⟩ := of_wrapped hw
      exact ⟨_, explicit, (of_checkText hchecked).2, hsize, hpos, rfl⟩

/-- Of three characters of two bytes each, one fits into three bytes. -/
theorem bindSized_sent_multibyte :
    StringFamily.codePage.wrap (.text "äöü") (some 3) = .ok (.varChar (some "äöü") (some 3)) ∧
      ((⟨.v74, .utf8, true⟩ : Inference).bind true
        (.typed (.varChar (some "äöü") (some 3)))).result = .ok ⟨.varChar 3, .text "ä", 3⟩ ∧
      (⟨.v74, .utf8, true⟩ : Inference).IsLongestFront .codePage 3 (Points.ofString "äöü")
        (Points.ofString "ä") := by
  have hw : StringFamily.codePage.wrap (.text "äöü") (some 3) =
      .ok (.varChar (some "äöü") (some 3)) := rfl
  have hbound : ((⟨.v74, .utf8, true⟩ : Inference).bindSized .codePage
      (some (Points.ofString "äöü")) (some 3)).result =
        .ok ⟨.varChar 3, some (Points.ofString "ä"), 3⟩ := by rfl
  obtain ⟨hsent, hwrapped⟩ := bindSized_sent ⟨.v74, .utf8, true⟩ rfl .codePage
  obtain ⟨content, explicit, hcontent, hsize, hpos, hbind⟩ := hwrapped true _ _ _ hw
  obtain rfl : content = some (Points.ofString "äöü") := hcontent
  obtain rfl : explicit = some 3 := by
    cases explicit with
    | none => cases hsize
    | some space => exact congrArg some (Int.ofNat.inj (Option.some.inj hsize)).symm
  obtain ⟨b, hb, hsized⟩ := hsent _ _ hpos
  obtain rfl := Except.ok.inj (hbound.symm.trans hb)
  obtain ⟨kept, hkept, hcut⟩ := hsized.cut _ 3 rfl rfl
  cases hkept
  have hresult := congrArg Reported.result (hbind.trans (Reported.bind_ok _ hbound))
  exact ⟨hw, hresult, (hcut not_false).1⟩

/-- Text of the code page above the limit does not have the long type that text has where types are
not minimised. Of half of a pair and three letters, two code units do not leave the first two code
points but a letter, which is no front of the text. -/
theorem bindSized_exceptions :
    ((⟨.v74, .cp1252, true⟩ : Inference).bind true
        (.typed (.varChar (some "a") (some 9000)))).result = .ok ⟨.text, .text "a", 9000⟩ ∧
      (⟨.v74, .cp1252, true⟩ : Inference).longText = .varCharMax ∧
      ((⟨.v74, .cp1252, true⟩ : Inference).bindSized .national
        (some (CodePoint.surrogate 0 :: Points.ofString "abc")) (some 2)).result =
          .ok ⟨.nvarChar 2, some (Points.ofString "a"), 2⟩ ∧
      ¬ Points.ofString "a" <+: CodePoint.surrogate 0 :: Points.ofString "abc" := by
  refine ⟨by rfl, rfl, by rfl, ?_⟩
  intro hprefix
  obtain ⟨hfirst, -⟩ := List.cons_prefix_cons.1 hprefix
  cases hfirst

end Inference

end TdsClient
