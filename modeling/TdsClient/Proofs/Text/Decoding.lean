import Mathlib.Data.List.Infix
import TdsClient.Proofs.Text.Encoding

/-!
# Cutting encoded text

Text that is too long for its space can be cut in two ways: after the last
character that fits, or by cutting its bytes and decoding what is left,
where the bytes of the character that was cut are ignored. Both give the
same text. In no code page does the encoding of a character stand inside
that of another one, or begin it, so that what is left of a character is
not taken for a different one.

## Main definitions

* `Charset.Decodes` — decoding that ignores what is no character.

## Main results

* `Fitting.prefix_take` — what is kept is the longest prefix that fits.
* `Charset.encode?_separate` — no encoding stands inside another one.
* `Charset.decodes_take_iff` — cutting the bytes cuts after the last character that fits.
-/

namespace TdsClient.Text

namespace Fitting

variable {α : Type}

/-- Every prefix that fits is a prefix of what is kept. -/
theorem prefix_take (size : α → Nat) (space : Nat) {text front : List α}
    (hfront : front <+: text) (hfits : Number.total (front.map size) ≤ space) :
    front <+: take size space text := by
  induction text generalizing front space with
  | nil =>
      rw [List.prefix_nil.1 hfront]
      exact List.nil_prefix
  | cons c rest ih =>
      cases front with
      | nil => exact List.nil_prefix
      | cons d front =>
          obtain ⟨rfl, hrest⟩ := List.cons_prefix_cons.1 hfront
          rw [List.map_cons, Number.total_cons] at hfits
          rw [take, if_pos (by omega)]
          exact List.cons_prefix_cons.2 ⟨rfl, ih (space - size d) hrest (by omega)⟩

end Fitting

namespace Charset

variable {set : Charset} {c d : Char} {piece piece' : List UInt8}

/-! ## Bytes of one character -/

/-- The code point of a byte beyond ASCII in a single byte set. -/
def codePoint (set : Charset) (byte : Nat) : Nat :=
  match set with
  | .latin9 => (latin9Exceptions.lookup byte).getD byte
  | .cp1251 => cyrillicUpper.getD (byte - 0x80) 0
  | .cp1252 => if 0xa0 ≤ byte then byte else westernUpper.getD (byte - 0x80) 0
  | _ => byte

/-- A character beyond ASCII has a byte beyond ASCII, which has no other character. -/
theorem codePoint_of_upperByte? {code byte : Nat} (hcode : 0x80 ≤ code)
    (h : upperByte? set code = some byte) :
    0x80 ≤ byte ∧ byte < 0x100 ∧ set.codePoint byte = code := by
  have hindex : ∀ {codes : List Nat} {i : Nat}, codes.idxOf? code = some i →
      i < codes.length ∧ codes.getD i 0 = code := by
    intro codes i hi
    obtain ⟨hlength, hget, -⟩ := List.idxOf?_eq_some_iff.1 hi
    rw [List.getD_eq_getElem?_getD, List.getElem?_eq_getElem hlength, ← hget]
    exact ⟨hlength, rfl⟩
  cases set with
  | latin1 =>
      obtain ⟨hlow, hbyte⟩ := Option.ite_none_right_eq_some.1 h
      cases hbyte
      exact ⟨hcode, hlow, rfl⟩
  | latin9 =>
      unfold upperByte? at h
      dsimp only at h
      split at h
      next other code' hentry =>
        cases h
        have hall : ∀ p ∈ latin9Exceptions, 0x80 ≤ p.1 ∧ p.1 < 0x100 ∧
            (latin9Exceptions.lookup p.1).getD p.1 = p.2 := by decide
        obtain ⟨hlow, hhigh, hlookup⟩ := hall _ (List.mem_of_find?_eq_some hentry)
        have hcode' : code' = code := by simpa using List.find?_some hentry
        exact ⟨hlow, hhigh, hlookup.trans hcode'⟩
      next =>
        obtain ⟨⟨hlow, hnone⟩, hbyte⟩ := Option.ite_none_right_eq_some.1 h
        cases hbyte
        refine ⟨hcode, hlow, ?_⟩
        rw [codePoint, Option.isNone_iff_eq_none.1 hnone, Option.getD_none]
  | cp1251 =>
      obtain ⟨i, hi, rfl⟩ := Option.map_eq_some_iff.1 h
      obtain ⟨hlength, hget⟩ := hindex hi
      have hlength' : i < 128 := hlength
      refine ⟨Nat.le_add_left _ _, by omega, ?_⟩
      rw [codePoint, Nat.add_sub_cancel, hget]
  | cp1252 =>
      unfold upperByte? at h
      dsimp only at h
      by_cases hlow : 0xa0 ≤ code ∧ code < 0x100
      · rw [if_pos hlow] at h
        cases h
        exact ⟨hcode, hlow.2, if_pos hlow.1⟩
      · rw [if_neg hlow] at h
        obtain ⟨i, hi, rfl⟩ := Option.map_eq_some_iff.1 h
        obtain ⟨hlength, hget⟩ := hindex hi
        have hlength' : i < 32 := hlength
        refine ⟨Nat.le_add_left _ _, by omega, ?_⟩
        rw [codePoint, if_neg (by omega), Nat.add_sub_cancel, hget]
  | _ => cases h

/-- In a single byte set a character has one byte, and no two characters have the same. -/
theorem singleByte_inj (hutf8 : set ≠ .utf8) (hutf16 : set ≠ .utf16le)
    (hc : set.encode? c = some piece) (hd : set.encode? d = some piece') :
    piece.length = 1 ∧ piece'.length = 1 ∧ (piece = piece' → c = d) := by
  have hbyte : ∀ {c : Char} {piece : List UInt8}, set.encode? c = some piece →
      ∃ byte, piece = [UInt8.ofNat byte] ∧ byte < 0x100 ∧
        c.toNat = if byte < 0x80 then byte else set.codePoint byte := by
    intro c piece h
    have hencode : set.encode? c =
        if c.toNat < 0x80 then some [UInt8.ofNat c.toNat]
        else (upperByte? set c.toNat).map fun byte => [UInt8.ofNat byte] := by
      cases set with
      | utf8 => exact absurd rfl hutf8
      | utf16le => exact absurd rfl hutf16
      | unknown name => cases h
      | unnamed => cases h
      | _ => rfl
    rw [hencode] at h
    by_cases hascii : c.toNat < 0x80
    · rw [if_pos hascii] at h
      cases h
      exact ⟨c.toNat, rfl, by omega, (if_pos hascii).symm⟩
    · rw [if_neg hascii] at h
      obtain ⟨byte, hupper, rfl⟩ := Option.map_eq_some_iff.1 h
      obtain ⟨hlow, hhigh, hcode⟩ := codePoint_of_upperByte? (Nat.le_of_not_lt hascii) hupper
      exact ⟨byte, rfl, hhigh, by rw [if_neg (Nat.not_lt_of_le hlow), hcode]⟩
  obtain ⟨byte, rfl, hlow, hcode⟩ := hbyte hc
  obtain ⟨byte', rfl, hlow', hcode'⟩ := hbyte hd
  refine ⟨rfl, rfl, fun hsame => ?_⟩
  have hbytes : byte = byte' := by
    have hnat := congrArg UInt8.toNat (List.cons.inj hsame).1
    rwa [UInt8.toNat_ofNat_of_lt' hlow, UInt8.toNat_ofNat_of_lt' hlow'] at hnat
  subst hbytes
  exact Char.toNat_inj.1 (hcode.trans hcode'.symm)

/-! ## Bytes of one character among those of another -/

/-- The UTF-8 encoding of a character does not begin that of another one, and does not stand further
inside of one. -/
theorem utf8_separate {j : Nat}
    (h : String.utf8EncodeChar d <+: (String.utf8EncodeChar c).drop j) : d = c ∧ j = 0 := by
  have hj : j = 0 := by
    have hpos : 0 < (String.utf8EncodeChar d).length := by
      rw [String.length_utf8EncodeChar]
      exact d.utf8Size_pos
    have hlength := h.length_le
    rw [List.length_drop] at hlength
    have hfirst : (String.utf8EncodeChar d)[0].IsUTF8FirstByte :=
      UInt8.isUTF8FirstByte_getElem_utf8EncodeChar.2 rfl
    rw [h.getElem hpos, List.getElem_drop] at hfirst
    have := UInt8.isUTF8FirstByte_getElem_utf8EncodeChar.1 hfirst
    omega
  subst hj
  obtain ⟨rest, hrest⟩ := h
  rw [List.drop_zero] at hrest
  have hdecode : (String.utf8EncodeChar c).toByteArray.utf8DecodeChar? 0 = some d := by
    rw [← hrest, List.toByteArray_append]
    exact ByteArray.utf8DecodeChar?_utf8EncodeChar_append
  have hself : (String.utf8EncodeChar c).toByteArray.utf8DecodeChar? 0 = some c := by
    have := ByteArray.utf8DecodeChar?_utf8EncodeChar_append (c := c) (b := ByteArray.empty)
    rwa [ByteArray.append_empty] at this
  exact ⟨Option.some.inj (hdecode.symm.trans hself), rfl⟩

/-- The code units of a character do not begin those of another one, and do not stand further inside
of them: a unit that is part of a pair is no character, and the first of a pair is no second one. -/
theorem units_separate {j : Nat} (h : Utf16.units d <+: (Utf16.units c).drop j) :
    d = c ∧ j = 0 := by
  have hvalid : ∀ c : Char, c.toNat < 0xd800 ∨ 0xdfff < c.toNat ∧ c.toNat < 0x110000 :=
    fun c => c.valid
  have hc := hvalid c
  have hd := hvalid d
  unfold Utf16.units at h
  rcases j with _ | _ | j
  · refine ⟨Char.toNat_inj.1 ?_, rfl⟩
    split at h <;> split at h <;> simp [List.cons_prefix_cons] at h <;> omega
  · -- only a single unit fits behind the first one of a pair, and it is no second one
    split at h <;> split at h <;> simp [List.cons_prefix_cons] at h
    omega
  · split at h <;> split at h <;> simp at h

/-- The bytes of code units. -/
def unitBytes (unit : Nat) : List UInt8 := [UInt8.ofNat (unit % 0x100), UInt8.ofNat (unit / 0x100)]

/-- Code units have the order of their bytes. -/
theorem prefix_of_flatMap_unitBytes {units units' : List Nat}
    (hunits : ∀ unit ∈ units, unit < 0x10000) (hunits' : ∀ unit ∈ units', unit < 0x10000)
    (h : units.flatMap unitBytes <+: units'.flatMap unitBytes) : units <+: units' := by
  induction units generalizing units' with
  | nil => exact List.nil_prefix
  | cons unit units ih =>
      cases units' with
      | nil => cases List.prefix_nil.1 h
      | cons unit' units' =>
          obtain ⟨hunit, hrest⟩ := List.forall_mem_cons.1 hunits
          obtain ⟨hunit', hrest'⟩ := List.forall_mem_cons.1 hunits'
          obtain ⟨hlow, hbehind⟩ := List.cons_prefix_cons.1 h
          obtain ⟨hhigh, hprefix⟩ := List.cons_prefix_cons.1 hbehind
          have hlow := congrArg UInt8.toNat hlow
          have hhigh := congrArg UInt8.toNat hhigh
          rw [UInt8.toNat_ofNat', UInt8.toNat_ofNat'] at hlow hhigh
          obtain rfl : unit = unit' := by omega
          exact List.cons_prefix_cons.2 ⟨rfl, ih hrest hrest' hprefix⟩

/-- Without the bytes of the first code units there are the bytes of the others. -/
theorem drop_flatMap_unitBytes (j : Nat) (units : List Nat) :
    (units.flatMap unitBytes).drop (2 * j) = (units.drop j).flatMap unitBytes := by
  induction j generalizing units with
  | zero => rfl
  | succ j ih =>
      cases units with
      | nil => rfl
      | cons unit units => exact ih units

/-- The first bytes of code units are the bytes of the first code units. -/
theorem take_flatMap_unitBytes (j : Nat) (units : List Nat) :
    (units.flatMap unitBytes).take (2 * j) = (units.take j).flatMap unitBytes := by
  induction j generalizing units with
  | zero => rfl
  | succ j ih =>
      cases units with
      | nil => rfl
      | cons unit units =>
          show _ :: _ :: (units.flatMap unitBytes).take (2 * j) = _
          rw [ih units]
          rfl

/-- The code units of a character are units of 16 bits. -/
theorem units_lt (c : Char) : ∀ unit ∈ Utf16.units c, unit < 0x10000 := by
  have hc : c.toNat < 0xd800 ∨ 0xdfff < c.toNat ∧ c.toNat < 0x110000 := c.valid
  unfold Utf16.units
  split
  · simpa
  · intro unit hunit
    simp at hunit
    omega

/-- Number of bytes of a code unit. -/
def unitSize : Charset → Nat
  | .utf16le => 2
  | _ => 1

theorem unitSize_pos (set : Charset) : 0 < set.unitSize := by
  cases set <;> exact Nat.succ_pos _

/-- The encoding of a character does not begin that of another one, and does not stand further
inside of one where a code unit starts. -/
theorem encode?_separate {j : Nat} (hc : set.encode? c = some piece)
    (hd : set.encode? d = some piece') (h : piece' <+: piece.drop (set.unitSize * j)) :
    d = c ∧ j = 0 := by
  by_cases hutf8 : set = .utf8
  · subst hutf8
    cases hc
    cases hd
    rw [show unitSize .utf8 = 1 from rfl, Nat.one_mul] at h
    exact utf8_separate h
  · by_cases hutf16 : set = .utf16le
    · subst hutf16
      cases hc
      cases hd
      rw [unitSize] at h
      have hunits := prefix_of_flatMap_unitBytes (units_lt d)
        (fun unit hunit => units_lt c unit (List.mem_of_mem_drop hunit))
        ((drop_flatMap_unitBytes j (Utf16.units c)).symm ▸ h)
      exact units_separate hunits
    · have hone : set.unitSize = 1 := by
        cases set with
        | utf16le => exact absurd rfl hutf16
        | _ => rfl
      obtain ⟨hlength, hlength', hinj⟩ := singleByte_inj hutf8 hutf16 hc hd
      have hle := h.length_le
      rw [hone, Nat.one_mul, List.length_drop] at hle
      obtain rfl : j = 0 := by omega
      rw [Nat.mul_zero, List.drop_zero] at h
      have hsame : piece' = piece := h.eq_of_length (hlength'.trans hlength.symm)
      exact ⟨(hinj hsame.symm).symm, rfl⟩

/-- The encoding of a character is not empty. -/
theorem encode?_ne_nil (hc : set.encode? c = some piece) : piece ≠ [] := by
  rintro rfl
  exact absurd (encode?_separate (j := 1) hc hc List.nil_prefix).2 Nat.one_ne_zero

/-! ## Decoding -/

/-- What bytes stand for where everything is ignored that is no character: at each place either
stands the encoding of a character, or a code unit that is left out. -/
inductive Decodes (set : Charset) : List UInt8 → List Char → Prop
  | nil : Decodes set [] []
  | char {c : Char} {piece bytes : List UInt8} {text : List Char}
      (hpiece : set.encode? c = some piece) (hrest : Decodes set bytes text) :
      Decodes set (piece ++ bytes) (c :: text)
  | skip {bytes : List UInt8} {text : List Char} (hbytes : bytes ≠ [])
      (hnone : ∀ c piece, set.encode? c = some piece → ¬ piece <+: bytes)
      (hrest : Decodes set (bytes.drop set.unitSize) text) : Decodes set bytes text

/-- Only one character stands at the front of bytes. -/
theorem eq_of_append_eq {bytes bytes' : List UInt8} (hc : set.encode? c = some piece)
    (hd : set.encode? d = some piece') (h : piece ++ bytes = piece' ++ bytes') :
    c = d ∧ bytes = bytes' := by
  have hsame : c = d := by
    rcases List.prefix_or_prefix_of_prefix (List.prefix_append piece bytes)
      (h ▸ List.prefix_append piece' bytes') with hprefix | hprefix
    · exact (encode?_separate (j := 0) hd hc hprefix).1
    · exact (encode?_separate (j := 0) hc hd hprefix).1.symm
  subst hsame
  cases hc.symm.trans hd
  exact ⟨rfl, List.append_cancel_left h⟩

/-- Bytes stand for one text only. -/
theorem Decodes.unique {bytes : List UInt8} {text text' : List Char} (h : Decodes set bytes text)
    (h' : Decodes set bytes text') : text = text' := by
  induction h generalizing text' with
  | nil =>
      generalize hbytes : ([] : List UInt8) = bytes at h'
      cases h' with
      | nil => rfl
      | char hpiece => exact absurd (List.append_eq_nil_iff.1 hbytes.symm).1 (encode?_ne_nil hpiece)
      | skip hne => exact absurd hbytes.symm hne
  | @char c piece rest text hpiece hrest ih =>
      generalize hbytes : piece ++ rest = bytes at h'
      cases h' with
      | nil => exact absurd (List.append_eq_nil_iff.1 hbytes).1 (encode?_ne_nil hpiece)
      | char hpiece' hrest' =>
          obtain ⟨rfl, rfl⟩ := eq_of_append_eq hpiece hpiece' hbytes
          rw [ih hrest']
      | skip _ hnone => exact absurd (hbytes ▸ List.prefix_append piece rest) (hnone c piece hpiece)
  | @skip bytes text hne hnone hrest ih =>
      cases h' with
      | nil => exact absurd rfl hne
      | char hpiece => exact absurd (List.prefix_append _ _) (hnone _ _ hpiece)
      | skip _ _ hrest' => exact ih hrest'

/-- What is left of a character that was cut stands for nothing. -/
theorem decodes_cut {n : Nat} (hc : set.encode? c = some piece) (hn : n < piece.length) (j : Nat) :
    Decodes set ((piece.take n).drop (set.unitSize * j)) [] := by
  induction hlength : ((piece.take n).drop (set.unitSize * j)).length using Nat.strongRecOn
    generalizing j with
  | ind length ih =>
      subst hlength
      by_cases hnil : (piece.take n).drop (set.unitSize * j) = []
      · rw [hnil]
        exact .nil
      · refine .skip hnil (fun d piece' hd hprefix => ?_) ?_
        · have hinside : piece' <+: piece.drop (set.unitSize * j) :=
            hprefix.trans (List.IsPrefix.drop (List.take_prefix n piece) _)
          obtain ⟨rfl, rfl⟩ := encode?_separate hc hd hinside
          cases hc.symm.trans hd
          have hle := hprefix.length_le
          rw [Nat.mul_zero, List.drop_zero, List.length_take] at hle
          omega
        · have hnext := ih _ ?_ (j + 1) rfl
          · rwa [Nat.mul_succ, ← List.drop_drop] at hnext
          · have hpos := List.length_pos_iff.2 hnil
            have hunit := set.unitSize_pos
            rw [List.length_drop] at hpos
            rw [List.length_drop, List.length_drop, Nat.mul_succ]
            omega

/-- If the bytes of a text are cut, what is left stands for the longest prefix that fits. -/
theorem decodes_take {text : List Char} {pieces : List (List UInt8)}
    (h : text.mapM set.encode? = some pieces) (n : Nat) :
    Decodes set (pieces.flatten.take n) (Fitting.take set.size n text) := by
  induction text generalizing pieces n with
  | nil =>
      obtain rfl : [] = pieces := by simpa using h
      rw [List.flatten_nil, List.take_nil]
      exact .nil
  | cons c rest ih =>
      obtain ⟨piece, hpiece, pieces', hpieces', rfl⟩ : ∃ piece, set.encode? c = some piece ∧
          ∃ pieces', rest.mapM set.encode? = some pieces' ∧ piece :: pieces' = pieces := by
        rw [List.mapM_cons] at h
        obtain ⟨piece, hpiece, h⟩ := Option.bind_eq_some_iff.1 h
        obtain ⟨pieces', hpieces', h⟩ := Option.bind_eq_some_iff.1 h
        exact ⟨piece, hpiece, pieces', hpieces', Option.some.inj h⟩
      have hsize : set.size c = piece.length := by
        rw [size, hpiece]
        rfl
      rw [List.flatten_cons, Fitting.take, hsize]
      by_cases hfits : piece.length ≤ n
      · rw [if_pos hfits, List.take_append, List.take_of_length_le hfits]
        exact .char hpiece (ih hpieces' _)
      · rw [if_neg hfits, List.take_append_of_le_length (Nat.le_of_not_le hfits)]
        exact decodes_cut hpiece (Nat.lt_of_not_le hfits) 0

/-- If the bytes of a text are cut, what is left stands for the longest prefix of the text that
fits, and for nothing else. -/
theorem decodes_take_iff {text : String} {bytes : List UInt8}
    (h : set.encodeText? text = some bytes) (n : Nat) (kept : List Char) :
    Decodes set (bytes.take n) kept ↔ kept = Fitting.take set.size n text.toList := by
  obtain ⟨pieces, hpieces, rfl⟩ := Option.map_eq_some_iff.1 h
  have hdecodes := decodes_take hpieces n
  exact ⟨fun hkept => hkept.unique hdecodes, fun hkept => hkept ▸ hdecodes⟩

end Charset

end TdsClient.Text
