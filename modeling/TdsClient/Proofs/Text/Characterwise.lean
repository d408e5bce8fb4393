import TdsClient.Proofs.Binding.Reported
import TdsClient.Proofs.Text.Encoding

/-!
# Encoding a text character by character

A text that the code page can hold is encoded as a whole. If a character is
missing, the characters are taken one after the other, replaced where they
are missing, and their sizes are added up. Both ways are one function, so a
text may be cut anywhere and its parts encoded apart.

What is reported of a missing character names it by its code point, in
hexadecimal digits.

## Main definitions

* `Inference.encodeOneByOne` — characters one after the other.
* `Charset.Transcribes` — what a text is sent as.
* `BindingWarning.Names` — the wording that names a code point.

## Main results

* `encodeText_eq_encodeOneByOne` — both ways of encoding agree.
* `encodeText_characterwise` — what encoding a text gives.
-/

namespace TdsClient

open Text

/-! ## Code points in words -/

namespace Number.Digits

/-- The value of a hexadecimal digit in upper case. -/
def hexDigitValue (c : Char) : Nat :=
  if c.isDigit then c.toNat - '0'.toNat else c.toNat - 'A'.toNat + 10

/-- The number that hexadecimal digits in upper case stand for. -/
def hexValue (digits : List Char) : Nat :=
  digits.foldl (fun n c => 16 * n + hexDigitValue c) 0

theorem hexValue_append_singleton (digits : List Char) (c : Char) :
    hexValue (digits ++ [c]) = 16 * hexValue digits + hexDigitValue c := by
  simp [hexValue]

theorem hexDigitValue_toUpper_digitChar :
    ∀ n < 16, hexDigitValue (Nat.digitChar n).toUpper = n := by
  decide

/-- The digits of a number stand for it. -/
theorem hexValue_toDigits (n : Nat) :
    hexValue ((Nat.toDigits 16 n).map Char.toUpper) = n := by
  induction n using Nat.strongRecOn with
  | ind n ih =>
      rw [Nat.toDigits_eq_if (by decide)]
      by_cases hsmall : n < 16
      · rw [if_pos hsmall]
        simpa [hexValue] using hexDigitValue_toUpper_digitChar n hsmall
      · have hfront := ih (n / 16) (by omega)
        have hlast := hexDigitValue_toUpper_digitChar (n % 16) (Nat.mod_lt n (by decide))
        rw [if_neg hsmall, List.map_append, List.map_singleton, hexValue_append_singleton, hfront,
          hlast]
        omega

theorem hexValue_zeros (count : Nat) (digits : List Char) :
    hexValue (List.replicate count '0' ++ digits) = hexValue digits := by
  induction count with
  | zero => rfl
  | succ count ih =>
      have hzero : hexValue ('0' :: (List.replicate count '0' ++ digits)) =
          hexValue (List.replicate count '0' ++ digits) := rfl
      rw [List.replicate_succ, List.cons_append, hzero, ih]

/-- Leading zeros do not matter. -/
theorem hexValue_hex (width n : Nat) :
    hexValue ((hex width n).toList.map Char.toUpper) = n := by
  have hzero : '0'.toUpper = '0' := by decide
  unfold hex
  rw [String.toList_ofList, List.map_append, List.map_replicate, hzero, hexValue_zeros,
    hexValue_toDigits]

end Number.Digits

/-- The wording of a loss names a code point, in eight hexadecimal digits, and a code page. -/
def BindingWarning.Names (w : BindingWarning) (code : Nat) (charset : String) : Prop :=
  ∃ digits : List Char, digits.length = 8 ∧ Number.Digits.hexValue digits = code ∧
    w.text = "Unicode codepoint U+" ++ String.ofList digits ++ " is not representable in " ++
      charset ++ "; replaced"

/-- What is reported of a missing character names it. -/
theorem BindingWarning.names_unrepresentable (c : Char) (charset : String) :
    (BindingWarning.unrepresentable c charset).Names c.toNat charset := by
  have hcode : c.toNat < Nat.pow 16 8 := by
    have hlt := c.val.toNat_lt
    exact Nat.lt_of_lt_of_eq hlt (by decide)
  refine ⟨(Number.Digits.hex 8 c.toNat).toList.map Char.toUpper, ?_, ?_, rfl⟩
  · rw [List.length_map, String.length_toList]
    exact Number.Digits.length_hex (by decide) hcode
  · exact Number.Digits.hexValue_hex 8 c.toNat

/-! ## Character by character -/

namespace Text.Charset

/-- What is sent for a character. -/
def sent (set : Charset) (c : Char) : Char := if set.has c then c else set.replacement

/-- A text is sent as another one, with a size and with losses: as many characters, each of them
kept if the code page has it, and otherwise replaced by the replacement character of Unicode, or by
a question mark if the code page does not have that one either; the size is the number of bytes of
what is sent as a whole; and the losses name the missing characters in the order of the text. -/
structure Transcribes (set : Charset) (s t : String) (size : Nat) (losses : List BindingWarning) :
    Prop where
  length : t.length = s.length
  kept : ∀ (n : Nat) (c : Char), s.toList[n]? = some c → set.has c = true → t.toList[n]? = some c
  replaced : ∀ (n : Nat) (c : Char), s.toList[n]? = some c → set.has c = false →
    t.toList[n]? = some (if set.has '\uFFFD' then '\uFFFD' else '?')
  encoded : ∃ bytes, set.encodeText? t = some bytes ∧ bytes.length = size
  named : List.Forall₂ (fun c (w : BindingWarning) => w.Names c.toNat set.name)
    (s.toList.filter fun c => !set.has c) losses

theorem substitute_eq (set : Charset) (s : String) :
    set.substitute s = String.ofList (s.toList.map set.sent) := rfl

/-- The parts of a text are replaced apart. -/
theorem substitute_append (set : Charset) (s t : String) :
    set.substitute (s ++ t) = set.substitute s ++ set.substitute t := by
  simp [substitute_eq]

/-- The missing characters of a text are those of its parts. -/
theorem missing_append (set : Charset) (s t : String) :
    set.missing (s ++ t) = set.missing s ++ set.missing t := by
  simp [missing]

/-- The bytes of a text are those of its parts. -/
theorem encodeText?_append {set : Charset} {s t : String} {bytes bytes' : List UInt8}
    (hs : set.encodeText? s = some bytes) (ht : set.encodeText? t = some bytes') :
    set.encodeText? (s ++ t) = some (bytes ++ bytes') := by
  unfold encodeText? at hs ht ⊢
  obtain ⟨pieces, hpieces, rfl⟩ := Option.map_eq_some_iff.1 hs
  obtain ⟨pieces', hpieces', rfl⟩ := Option.map_eq_some_iff.1 ht
  rw [String.toList_append, List.mapM_append, hpieces, hpieces']
  simp

/-- The character that stands in for missing ones. -/
theorem replacement_eq (set : Charset) :
    set.replacement = if set.has '\uFFFD' then '\uFFFD' else '?' := rfl

/-- Replacing characters one by one is a transcription. -/
theorem transcribes_substitute (set : Charset) (s : String) {bytes : List UInt8}
    (hbytes : set.encodeText? (set.substitute s) = some bytes) :
    set.Transcribes s (set.substitute s) bytes.length
      ((set.missing s).map (.unrepresentable · set.name)) where
  length := by
    rw [substitute_eq, String.length_ofList, List.length_map, String.length_toList]
  kept := by
    intro n c hc hhas
    rw [substitute_eq, String.toList_ofList, List.getElem?_map, hc, Option.map_some]
    unfold sent
    rw [if_pos hhas]
  replaced := by
    intro n c hc hmissing
    rw [substitute_eq, String.toList_ofList, List.getElem?_map, hc, Option.map_some]
    unfold sent
    rw [hmissing, if_neg (by decide), replacement_eq]
  encoded := ⟨bytes, hbytes, rfl⟩
  named := by
    rw [List.forall₂_map_right_iff]
    exact List.forall₂_same.2 fun c _ => BindingWarning.names_unrepresentable c set.name

end Text.Charset

namespace Inference

/-- A character as the code page can hold it and its size in bytes. A character that the code page
does not have is replaced and reported. -/
def encodeCharacter (i : Inference) (c : Char) : Reported (Char × Nat) :=
  match i.charset.encode? c with
  | some bytes => pure (c, bytes.length)
  | none => do
    Reported.warn [.unrepresentable c i.charset.name]
    return (i.charset.replacement, i.charset.size i.charset.replacement)

/-- A text as the code page can hold it and its size, one character after the other. -/
def encodeOneByOne (i : Inference) (s : String) : Reported (String × Nat) := do
  let characters ← s.toList.mapM i.encodeCharacter
  return (String.ofList (characters.map Prod.fst), Number.total (characters.map Prod.snd))

variable (i : Inference)

/-- What comes of a character. -/
theorem encodeCharacter_eq (c : Char) :
    i.encodeCharacter c =
      ⟨if i.charset.has c then [] else [.unrepresentable c i.charset.name],
        .ok (i.charset.sent c, i.charset.size (i.charset.sent c))⟩ := by
  unfold encodeCharacter Charset.sent Charset.has
  cases hbytes : i.charset.encode? c with
  | some bytes =>
      have hsize : i.charset.size c = bytes.length := by simp [Charset.size, hbytes]
      simp only [Option.isSome_some, if_true]
      rw [hsize]
      rfl
  | none => exact Reported.warn_bind_pure _ _

/-- What comes of characters one after the other. -/
theorem encodeOneByOne_eq (s : String) :
    i.encodeOneByOne s =
      ⟨(i.charset.missing s).map (.unrepresentable · i.charset.name),
        .ok (i.charset.substitute s,
          Number.total ((i.charset.substitute s).toList.map i.charset.size))⟩ := by
  have hlosses : ∀ cs : List Char,
      (cs.flatMap fun c => if i.charset.has c then []
        else [BindingWarning.unrepresentable c i.charset.name]) =
      (cs.filter (!i.charset.has ·)).map (.unrepresentable · i.charset.name) := by
    intro cs
    induction cs with
    | nil => rfl
    | cons c rest ih =>
        rw [List.flatMap_cons, ih]
        cases hc : i.charset.has c with
        | true => simp [hc]
        | false => simp [hc]
  unfold encodeOneByOne
  rw [Reported.mapM_of_forall fun c _ => i.encodeCharacter_eq c, Reported.bind_ok _ rfl, hlosses]
  simp only [List.map_map, Charset.substitute_eq, String.toList_ofList]
  exact congrArg (Reported.mk · _) (List.append_nil _)

/-- A text that the code page can hold, or in which characters are replaced, comes out the same if
the characters are taken one after the other. -/
theorem encodeText_eq_encodeOneByOne (hknown : i.charset.isKnown = true) (s : String) :
    i.encodeText s = i.encodeOneByOne s := by
  obtain ⟨bytes, hbytes, hencoded⟩ := i.encodeText_eq hknown s
  obtain ⟨bytes', hbytes', hlength⟩ :=
    i.charset.encodeText?_of_has _ (i.charset.missing_substitute hknown s)
  obtain rfl : bytes = bytes' := Option.some.inj (hbytes.symm.trans hbytes')
  rw [hencoded, encodeOneByOne_eq, hlength]

/-- What is sent for a text is sent as it is. -/
theorem encodeText_substitute (hknown : i.charset.isKnown = true) {s : String}
    {bytes : List UInt8} (hbytes : i.charset.encodeText? (i.charset.substitute s) = some bytes) :
    i.encodeText (i.charset.substitute s) = ⟨[], .ok (i.charset.substitute s, bytes.length)⟩ := by
  have hmissing := i.charset.missing_substitute hknown s
  obtain ⟨again, hagain, hencoded⟩ := i.encodeText_eq hknown (i.charset.substitute s)
  rw [i.charset.substitute_of_has _ hmissing] at hagain hencoded
  obtain rfl : bytes = again := Option.some.inj (hbytes.symm.trans hagain)
  rw [hencoded, hmissing]
  rfl

/-- Parts of a text are encoded one after the other. -/
theorem encodeText_append (hknown : i.charset.isKnown = true) {s s' : String}
    {t t' : String} {size size' : Nat} {losses losses' : List BindingWarning}
    (hs : i.encodeText s = ⟨losses, .ok (t, size)⟩)
    (hs' : i.encodeText s' = ⟨losses', .ok (t', size')⟩) :
    i.encodeText (s ++ s') = ⟨losses ++ losses', .ok (t ++ t', size + size')⟩ := by
  obtain ⟨bytes, hbytes, hencoded⟩ := i.encodeText_eq hknown s
  obtain ⟨bytes', hbytes', hencoded'⟩ := i.encodeText_eq hknown s'
  obtain ⟨whole, hwhole, htogether⟩ := i.encodeText_eq hknown (s ++ s')
  rw [hencoded] at hs
  rw [hencoded'] at hs'
  cases hs
  cases hs'
  rw [i.charset.substitute_append] at hwhole htogether
  have hsame := hwhole.symm.trans (Charset.encodeText?_append hbytes hbytes')
  rw [htogether, Option.some.inj hsame, i.charset.missing_append, List.map_append,
    List.length_append]

/-- With a code page that is known every text is encoded, as a whole or one character after the
other: it is transcribed, and its transcription is encoded as it is, without a loss. Two texts in a
row come out as they do apart. -/
theorem encodeText_characterwise (hknown : i.charset.isKnown = true) (s : String) :
    ∃ t size losses, i.encodeText s = ⟨losses, .ok (t, size)⟩ ∧
      i.encodeOneByOne s = ⟨losses, .ok (t, size)⟩ ∧
      i.charset.Transcribes s t size losses ∧
      i.encodeText t = ⟨[], .ok (t, size)⟩ ∧
      ∀ s', ∃ t' size' losses', i.encodeText s' = ⟨losses', .ok (t', size')⟩ ∧
        i.encodeText (s ++ s') = ⟨losses ++ losses', .ok (t ++ t', size + size')⟩ := by
  obtain ⟨bytes, hbytes, hencoded⟩ := i.encodeText_eq hknown s
  refine ⟨_, _, _, hencoded, ?_, i.charset.transcribes_substitute s hbytes,
    i.encodeText_substitute hknown hbytes, ?_⟩
  · rw [← i.encodeText_eq_encodeOneByOne hknown s, hencoded]
  · intro s'
    obtain ⟨bytes', -, hencoded'⟩ := i.encodeText_eq hknown s'
    exact ⟨_, _, _, hencoded', i.encodeText_append hknown hencoded hencoded'⟩

/-- A Western code page. -/
def western : Inference := { version := .v74, charset := .cp1252, nationalText := false }

/-- A Cyrillic letter between two that are held is replaced, and named. -/
theorem encodeText_characterwise_western :
    western.encodeText "aж€" = ⟨[.unrepresentable 'ж' "cp1252"], .ok ("a?€", 3)⟩ ∧
      western.encodeOneByOne "aж€" = ⟨[.unrepresentable 'ж' "cp1252"], .ok ("a?€", 3)⟩ ∧
      western.encodeText "a?€" = ⟨[], .ok ("a?€", 3)⟩ := by
  obtain ⟨t, size, losses, hencoded, hcharacters, -, hagain, -⟩ :=
    western.encodeText_characterwise rfl "aж€"
  have hvalue : western.encodeText "aж€" =
      ⟨[.unrepresentable 'ж' "cp1252"], .ok ("a?€", 3)⟩ := by rfl
  rw [hencoded] at hvalue
  cases hvalue
  exact ⟨hencoded, hcharacters, hagain⟩

end Inference

end TdsClient
