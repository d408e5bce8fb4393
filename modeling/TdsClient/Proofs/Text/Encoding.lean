import TdsClient.Binding.Inference

/-!
# Encoding text in a code page

A text can be encoded exactly if the code page has all its characters, and
then takes as many bytes as they take together. A text that cannot be
encoded is replaced by one that can.

## Main definitions

* `Charset.missing` — the characters that a code page does not have.
* `Charset.substitute` — a text with those characters replaced.

## Main results

* `encodeText?_of_has`, `encodeText?_of_missing` — when a text can be encoded.
* `encodeText_eq` — what text is sent as, and what is reported.
-/

namespace TdsClient.Text.Charset

/-- The characters of a text that a code page does not have, in order. -/
def missing (set : Charset) (s : String) : List Char := s.toList.filter (!set.has ·)

/-- A text with the characters that a code page does not have replaced. -/
def substitute (set : Charset) (s : String) : String :=
  String.ofList (s.toList.map fun c => if set.has c then c else set.replacement)

theorem missing_eq_nil_iff (set : Charset) (s : String) :
    set.missing s = [] ↔ ∀ c ∈ s.toList, set.has c = true := by
  simp [missing, List.filter_eq_nil_iff]

/-- Characters that a code page has take as many bytes as they take one by one. -/
theorem mapM_encode?_of_has (set : Charset) (cs : List Char) (h : ∀ c ∈ cs, set.has c = true) :
    ∃ pieces, cs.mapM set.encode? = some pieces ∧
      pieces.flatten.length = Number.total (cs.map set.size) := by
  induction cs with
  | nil => exact ⟨[], rfl, rfl⟩
  | cons c rest ih =>
      obtain ⟨pieces, hpieces, hlength⟩ := ih fun d hd => h d (List.mem_cons_of_mem c hd)
      have hc := h c (List.mem_cons_self ..)
      unfold has at hc
      obtain ⟨bytes, hbytes⟩ := Option.isSome_iff_exists.1 hc
      refine ⟨bytes :: pieces, ?_, ?_⟩
      · simp [hbytes, hpieces]
      · have hsize : set.size c = bytes.length := by
          unfold size
          rw [hbytes]
          rfl
        rw [List.flatten_cons, List.length_append, hlength, List.map_cons, Number.total_cons, hsize]

/-- One character that a code page does not have is enough for a text not to be encoded. -/
theorem mapM_encode?_of_missing (set : Charset) (cs : List Char) {c : Char} (hmem : c ∈ cs)
    (hc : set.has c = false) : cs.mapM set.encode? = none := by
  have hnone : set.encode? c = none := by
    unfold has at hc
    simpa using hc
  induction cs with
  | nil => cases hmem
  | cons d rest ih =>
      rcases List.mem_cons.1 hmem with rfl | hrest
      · simp [hnone]
      · simp [ih hrest]

/-- A text of characters that a code page has takes as many bytes as they take one by one. -/
theorem encodeText?_of_has (set : Charset) (s : String) (h : set.missing s = []) :
    ∃ bytes, set.encodeText? s = some bytes ∧
      bytes.length = Number.total (s.toList.map set.size) := by
  obtain ⟨pieces, hpieces, hlength⟩ :=
    mapM_encode?_of_has set s.toList ((missing_eq_nil_iff set s).1 h)
  refine ⟨pieces.flatten, ?_, hlength⟩
  unfold encodeText?
  rw [hpieces]
  rfl

theorem encodeText?_of_missing (set : Charset) (s : String) (h : set.missing s ≠ []) :
    set.encodeText? s = none := by
  obtain ⟨c, hc⟩ := List.exists_mem_of_ne_nil _ h
  have hmem := List.mem_filter.1 hc
  unfold encodeText?
  rw [mapM_encode?_of_missing set s.toList hmem.1 (by simpa using hmem.2)]
  rfl

/-- After the replacement nothing is missing. -/
theorem missing_substitute (set : Charset) (hknown : set.isKnown = true) (s : String) :
    set.missing (set.substitute s) = [] := by
  rw [missing_eq_nil_iff]
  intro c hc
  unfold substitute at hc
  rw [String.toList_ofList] at hc
  obtain ⟨d, _, rfl⟩ := List.mem_map.1 hc
  by_cases hd : set.has d = true
  · rw [if_pos hd]
    exact hd
  · rw [if_neg hd]
    exact has_replacement set hknown

/-- A text with nothing missing stays as it is. -/
theorem substitute_of_has (set : Charset) (s : String) (h : set.missing s = []) :
    set.substitute s = s := by
  have hall := (missing_eq_nil_iff set s).1 h
  have hsame : (s.toList.map fun c => if set.has c then c else set.replacement) = s.toList :=
    (List.map_congr_left fun c hc => if_pos (hall c hc)).trans (List.map_id s.toList)
  unfold substitute
  rw [hsame, String.ofList_toList]

/-! ## ASCII -/

/-- Outside of UTF-16 an ASCII character takes a byte. -/
theorem size_ascii (set : Charset) (hknown : set.isKnown = true) (hset : set ≠ .utf16le) {c : Char}
    (hc : c.toNat < 0x80) : set.has c = true ∧ set.size c = 1 := by
  have hsize : ∀ b : UInt8, set.encode? c = some [b] → set.has c = true ∧ set.size c = 1 := by
    intro b hb
    unfold has size
    rw [hb]
    exact ⟨rfl, rfl⟩
  cases set with
  | utf16le => exact absurd rfl hset
  | unknown name => cases hknown
  | unnamed => cases hknown
  | utf8 =>
      refine ⟨rfl, ?_⟩
      show (String.utf8EncodeChar c).length = 1
      rw [String.length_utf8EncodeChar]
      have hval : c.val ≤ UInt32.ofNatLT 0x7f (by decide) := by
        rw [UInt32.le_iff_toNat_le]
        exact Nat.le_of_lt_succ hc
      exact if_pos hval
  | ascii => exact hsize _ (if_pos hc)
  | latin1 => exact hsize _ (if_pos hc)
  | latin9 => exact hsize _ (if_pos hc)
  | cp1251 => exact hsize _ (if_pos hc)
  | cp1252 => exact hsize _ (if_pos hc)

/-- Outside of UTF-16 an ASCII text takes as many bytes as it has characters. -/
theorem encodeText?_ascii (set : Charset) (hknown : set.isKnown = true) (hset : set ≠ .utf16le)
    (s : String) (hs : ∀ c ∈ s.toList, c.toNat < 0x80) :
    ∃ bytes, set.encodeText? s = some bytes ∧ bytes.length = s.length := by
  have hmissing : set.missing s = [] :=
    (set.missing_eq_nil_iff s).2 fun c hc => (set.size_ascii hknown hset (hs c hc)).1
  obtain ⟨bytes, hbytes, hlength⟩ := set.encodeText?_of_has s hmissing
  refine ⟨bytes, hbytes, ?_⟩
  have hones : ∀ cs : List Char, (∀ c ∈ cs, set.size c = 1) →
      Number.total (cs.map set.size) = cs.length := by
    intro cs hcs
    induction cs with
    | nil => rfl
    | cons c rest ih =>
        have hrest := ih fun d hd => hcs d (List.mem_cons_of_mem c hd)
        have hc := hcs c (List.mem_cons_self ..)
        rw [List.map_cons, Number.total_cons, hrest, hc, List.length_cons]
        omega
  rw [hlength, hones _ fun c hc => (set.size_ascii hknown hset (hs c hc)).2]
  exact String.length_toList

end TdsClient.Text.Charset

namespace TdsClient.Number.Digits

/-- A hexadecimal digit is an ASCII character. -/
theorem toNat_digitChar_lt : ∀ n < 16, (Nat.digitChar n).toNat < 0x80 := by
  decide

/-- The written form fills its width. -/
theorem length_hex {width n : Nat} (hwidth : 0 < width) (h : n < Nat.pow 16 width) :
    (hex width n).length = width := by
  have hlength := (Nat.length_toDigits_le_iff (by decide) hwidth).2 h
  unfold hex
  rw [String.length_ofList, List.length_append, List.length_replicate]
  omega

theorem toDigits_ascii (n : Nat) : ∀ c ∈ Nat.toDigits 16 n, c.toNat < 0x80 := by
  induction n using Nat.strongRecOn with
  | ind n ih =>
      intro c hc
      rw [Nat.toDigits_eq_if (by decide)] at hc
      by_cases hsmall : n < 16
      · rw [if_pos hsmall] at hc
        rw [List.mem_singleton.1 hc]
        exact toNat_digitChar_lt n hsmall
      · rw [if_neg hsmall] at hc
        rcases List.mem_append.1 hc with hfront | hlast
        · exact ih (n / 16) (by omega) c hfront
        · rw [List.mem_singleton.1 hlast]
          exact toNat_digitChar_lt _ (Nat.mod_lt n (by decide))

theorem hex_ascii (width n : Nat) : ∀ c ∈ (hex width n).toList, c.toNat < 0x80 := by
  intro c hc
  unfold hex at hc
  rw [String.toList_ofList] at hc
  rcases List.mem_append.1 hc with hzero | hdigit
  · rw [List.eq_of_mem_replicate hzero]
    decide
  · exact toDigits_ascii n c hdigit

end TdsClient.Number.Digits

namespace TdsClient.Uuid

/-- A group of the digits of an identifier. -/
def group (u : Uuid) (start length : Nat) : List Char :=
  ((Number.Digits.hex 32 u.word.toNat).toList.drop start).take length

theorem toList_text (u : Uuid) :
    u.text.toList = u.group 0 8 ++ '-' :: u.group 8 4 ++ '-' :: u.group 12 4 ++
      '-' :: u.group 16 4 ++ '-' :: u.group 20 12 := by
  unfold text group
  dsimp only
  rw [String.toList_intercalate]
  simp [List.intercalate]

theorem length_group (u : Uuid) {start length : Nat} (h : start + length ≤ 32) :
    (u.group start length).length = length := by
  have hdigits : (Number.Digits.hex 32 u.word.toNat).toList.length = 32 := by
    rw [String.length_toList]
    exact Number.Digits.length_hex (by decide) (Nat.lt_of_lt_of_eq u.word.isLt (by decide))
  unfold group
  rw [List.length_take, List.length_drop, hdigits]
  omega

/-- An identifier is written with 36 characters. -/
theorem length_text (u : Uuid) : u.text.length = 36 := by
  rw [← String.length_toList, toList_text]
  simp [length_group]

/-- All characters of an identifier are ASCII. -/
theorem text_ascii (u : Uuid) : ∀ c ∈ u.text.toList, c.toNat < 0x80 := by
  have hgroup : ∀ start length, ∀ c ∈ u.group start length, c.toNat < 0x80 := by
    intro start length c hc
    exact Number.Digits.hex_ascii 32 _ c (List.mem_of_mem_drop (List.mem_of_mem_take hc))
  have hdash : ∀ cs : List Char, (∀ c ∈ cs, c.toNat < 0x80) → ∀ c ∈ '-' :: cs, c.toNat < 0x80 := by
    intro cs hcs c hc
    rcases List.mem_cons.1 hc with rfl | hrest
    · decide
    · exact hcs c hrest
  intro c hc
  rw [toList_text] at hc
  rcases List.mem_append.1 hc with hc | hlast
  · rcases List.mem_append.1 hc with hc | hfourth
    · rcases List.mem_append.1 hc with hc | hthird
      · rcases List.mem_append.1 hc with hfirst | hsecond
        · exact hgroup _ _ c hfirst
        · exact hdash _ (hgroup _ _) c hsecond
      · exact hdash _ (hgroup _ _) c hthird
    · exact hdash _ (hgroup _ _) c hfourth
  · exact hdash _ (hgroup _ _) c hlast

end TdsClient.Uuid

namespace TdsClient

/-- A result after warnings. -/
theorem Reported.warn_bind_pure {α : Type} (ws : List BindingWarning) (a : α) :
    (warn ws >>= fun _ => pure a) = ⟨ws, .ok a⟩ := by
  rw [bind_ok _ rfl]
  show Reported.mk (ws ++ []) (.ok a) = _
  rw [List.append_nil]

namespace Inference

open Text

/-- Text of a known code page is sent with missing characters replaced, which is reported for each
of them; the size is the number of bytes of what is sent. -/
theorem encodeText_eq (i : Inference) (hknown : i.charset.isKnown = true) (s : String) :
    ∃ bytes, i.charset.encodeText? (i.charset.substitute s) = some bytes ∧
      i.encodeText s =
        ⟨(i.charset.missing s).map (.unrepresentable · i.charset.name),
          .ok (i.charset.substitute s, bytes.length)⟩ := by
  obtain ⟨bytes, hbytes, hlength⟩ :=
    i.charset.encodeText?_of_has _ (i.charset.missing_substitute hknown s)
  refine ⟨bytes, hbytes, ?_⟩
  unfold encodeText
  rw [hknown]
  by_cases hmissing : i.charset.missing s = []
  · have hsame := i.charset.substitute_of_has s hmissing
    rw [hsame] at hbytes
    rw [hmissing, hsame, hbytes]
    rfl
  · rw [i.charset.encodeText?_of_missing s hmissing, hlength]
    unfold Charset.missing Charset.substitute
    rw [String.toList_ofList]
    exact Reported.warn_bind_pure _ _

end Inference

end TdsClient
