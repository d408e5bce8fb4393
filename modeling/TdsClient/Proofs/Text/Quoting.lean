import TdsClient.Proofs.Text.Characterwise
import TdsClient.Text.Quoted

/-!
# Quoted literals read back

Inside a quoted literal every character has a code: itself, a backslash and
a letter, or a backslash, a letter and as many hexadecimal digits as the
letter says. A code tells where it ends, and none begins with the quote. So
a literal tells where it ends too, and what it is the literal of.

## Main definitions

* `Quoted.readCode` — reads the code of a character.

## Main results

* `readCode_code` — a code is read as its character, whatever follows.
* `ofText_cut`, `ofBytes_cut` — a literal in front of other text.
* `Uuid.text_injective` — different identifiers are written differently.
-/

namespace TdsClient.Text.Quoted

open Number.Digits

/-! ## Codes of characters -/

/-- The code of a character, of which some stand for themselves. -/
def code (quote : Char) (plain : Char → Bool) (c : Char) : List Char :=
  match shortEscape? quote c with
  | some e => e
  | none => if plain c then [c] else numbered c.toNat

/-- Reads the number of a character from so many hexadecimal digits. -/
def readNumber (width : Nat) (text : List Char) : Nat × List Char :=
  (hexValue ((text.take width).map Char.toUpper), text.drop width)

/-- Reads the number of a character from its code. -/
def readCode : List Char → Option (Nat × List Char)
  | '\\' :: 'x' :: rest => some (readNumber 2 rest)
  | '\\' :: 'u' :: rest => some (readNumber 4 rest)
  | '\\' :: 'U' :: rest => some (readNumber 8 rest)
  | '\\' :: 't' :: rest => some ('\t'.toNat, rest)
  | '\\' :: 'n' :: rest => some ('\n'.toNat, rest)
  | '\\' :: 'r' :: rest => some ('\r'.toNat, rest)
  | '\\' :: c :: rest => some (c.toNat, rest)
  | c :: rest => some (c.toNat, rest)
  | [] => none

theorem readNumber_hex {width n : Nat} (hwidth : 0 < width) (h : n < Nat.pow 16 width)
    (rest : List Char) : readNumber width ((hex width n).toList ++ rest) = (n, rest) := by
  have hlength : (hex width n).toList.length = width := by
    rw [String.length_toList]
    exact length_hex hwidth h
  rw [readNumber, List.take_left' hlength, List.drop_left' hlength, hexValue_hex]

theorem readCode_numbered (c : Char) (rest : List Char) :
    readCode (numbered c.toNat ++ rest) = some (c.toNat, rest) := by
  have hc : c.toNat < 0x110000 := by
    have hvalid := c.valid
    simp only [UInt32.isValidChar, Nat.isValidChar] at hvalid
    show c.val.toNat < _
    omega
  unfold numbered escaped
  split
  next hshort =>
    rw [List.append_assoc, List.cons_append, List.cons_append, List.nil_append, readCode,
      readNumber_hex (by decide) hshort]
  next =>
    split
    next hmiddle =>
      rw [List.append_assoc, List.cons_append, List.cons_append, List.nil_append, readCode,
        readNumber_hex (by decide) hmiddle]
    next =>
      rw [List.append_assoc, List.cons_append, List.cons_append, List.nil_append, readCode,
        readNumber_hex (by decide) (Nat.lt_trans hc (by decide))]

/-- The quotes that literals stand between. -/
def IsQuote (quote : Char) : Prop := quote = '\'' ∨ quote = '"'

theorem isQuote_quoteFor (text : List Char) : IsQuote (quoteFor text) := by
  unfold quoteFor
  split
  · exact .inr rfl
  · exact .inl rfl

variable {quote : Char} {plain : Char → Bool}

/-- A code is read as its character, whatever follows. -/
theorem readCode_code (hquote : IsQuote quote) (c : Char) (rest : List Char) :
    readCode (code quote plain c ++ rest) = some (c.toNat, rest) := by
  unfold code shortEscape?
  by_cases hself : c = '\\' ∨ c = quote
  · rw [if_pos hself]
    rcases hself with rfl | rfl
    · rfl
    · rcases hquote with rfl | rfl <;> rfl
  · rw [if_neg hself]
    by_cases ht : c = '\t'
    · subst ht
      rfl
    rw [if_neg ht]
    by_cases hn : c = '\n'
    · subst hn
      rfl
    rw [if_neg hn]
    by_cases hr : c = '\r'
    · subst hr
      rfl
    rw [if_neg hr]
    cases hplain : plain c with
    | false => exact readCode_numbered c rest
    | true =>
        have hbackslash : c ≠ '\\' := fun h => hself (.inl h)
        simp [readCode, hbackslash]

theorem head?_code (quote : Char) (plain : Char → Bool) (c : Char) :
    (code quote plain c).head? = some '\\' ∨ c ≠ quote ∧ code quote plain c = [c] := by
  unfold code shortEscape? numbered escaped
  by_cases hself : c = '\\' ∨ c = quote
  · rw [if_pos hself]
    exact .inl rfl
  · rw [if_neg hself]
    have hquote : c ≠ quote := fun h => hself (.inr h)
    by_cases hplain : plain c = true <;> grind

/-- No code begins with the quote. -/
theorem code_append_ne (hquote : IsQuote quote) (c : Char) (rest rest' : List Char) :
    code quote plain c ++ rest ≠ quote :: rest' := by
  intro h
  rcases head?_code quote plain c with hhead | ⟨hne, hself⟩
  · obtain ⟨letters, hletters⟩ := List.head?_eq_some_iff.1 hhead
    rw [hletters] at h
    have hbackslash : '\\' = quote := (List.cons.inj h).1
    rcases hquote with rfl | rfl <;> cases hbackslash
  · rw [hself] at h
    exact hne (List.cons.inj h).1

/-! ## Literals -/

section

variable {α : Type} {f : α → List Char}

/-- Codes that tell where they end, up to a quote with which none of them begins. -/
theorem flatMap_cut
    (hcode : ∀ a b : α, ∀ u v : List Char, f a ++ u = f b ++ v → a = b ∧ u = v)
    (hend : ∀ (a : α) (u v : List Char), f a ++ u ≠ quote :: v) {s t : List α} {u v : List Char}
    (h : s.flatMap f ++ quote :: u = t.flatMap f ++ quote :: v) : s = t ∧ u = v := by
  induction s generalizing t with
  | nil =>
      cases t with
      | nil => exact ⟨rfl, (List.cons.inj h).2⟩
      | cons b t =>
          rw [List.flatMap_cons, List.append_assoc] at h
          exact absurd h.symm (hend b _ _)
  | cons a s ih =>
      cases t with
      | nil =>
          rw [List.flatMap_cons, List.append_assoc] at h
          exact absurd h (hend a _ _)
      | cons b t =>
          rw [List.flatMap_cons, List.flatMap_cons, List.append_assoc, List.append_assoc] at h
          obtain ⟨rfl, hrest⟩ := hcode a b _ _ h
          obtain ⟨rfl, rfl⟩ := ih hrest
          exact ⟨rfl, rfl⟩

end

theorem code_cut (hquote : IsQuote quote) {c d : Char} {u v : List Char}
    (h : code quote plain c ++ u = code quote plain d ++ v) : c = d ∧ u = v := by
  have hread : readCode (code quote plain c ++ u) = some (c.toNat, u) := readCode_code hquote c u
  rw [h, readCode_code hquote] at hread
  have hboth := Option.some.inj hread
  exact ⟨(Char.toNat_inj.1 (congrArg Prod.fst hboth)).symm, (congrArg Prod.snd hboth).symm⟩

/-- A text literal tells where it ends, and the text. -/
theorem ofText_cut {s t : String} {u v : List Char}
    (h : (ofText s).toList ++ u = (ofText t).toList ++ v) : s = t ∧ u = v := by
  have hquote := isQuote_quoteFor s.toList
  unfold ofText at h
  simp only [String.toList_ofList, List.cons_append, List.append_assoc, List.nil_append] at h
  obtain ⟨hsame, hrest⟩ := List.cons.inj h
  rw [← hsame] at hrest
  obtain ⟨htext, hafter⟩ := flatMap_cut (fun _ _ _ _ => code_cut hquote)
    (fun c u v => code_append_ne hquote c u v) hrest
  exact ⟨String.toList_inj.1 htext, hafter⟩

/-- The character of a byte. -/
def byteChar (b : UInt8) : Char := Char.ofNat b.toNat

theorem toNat_byteChar (b : UInt8) : (byteChar b).toNat = b.toNat := by
  have hb := b.toNat_lt
  have hvalid : b.toNat.isValidChar := .inl (by omega)
  have hchar : byteChar b = Char.ofNatAux b.toNat hvalid := dif_pos hvalid
  rw [hchar]
  rfl

theorem escapeByte_eq_code (quote : Char) (b : UInt8) :
    escapeByte quote b = code quote (fun c => 0x20 ≤ c.toNat ∧ c.toNat < 0x7f) (byteChar b) := by
  simp only [escapeByte, code, decide_eq_true_eq, toNat_byteChar]
  rfl

/-- A byte string literal tells where it ends, and the bytes. -/
theorem ofBytes_cut {s t : List UInt8} {u v : List Char}
    (h : (ofBytes s).toList ++ u = (ofBytes t).toList ++ v) : s = t ∧ u = v := by
  have hquote := isQuote_quoteFor (s.map fun b => Char.ofNat b.toNat)
  unfold ofBytes at h
  simp only [String.toList_ofList, List.cons_append, List.append_assoc, List.nil_append] at h
  obtain ⟨hsame, hrest⟩ := List.cons.inj (List.cons.inj h).2
  rw [← hsame] at hrest
  refine flatMap_cut (fun a b u v hab => ?_) (fun b u v => ?_) hrest
  · rw [escapeByte_eq_code, escapeByte_eq_code] at hab
    obtain ⟨hchar, hafter⟩ := code_cut hquote hab
    have hnat := congrArg Char.toNat hchar
    rw [toNat_byteChar, toNat_byteChar] at hnat
    exact ⟨UInt8.toNat_inj.1 hnat, hafter⟩
  · rw [escapeByte_eq_code]
    exact code_append_ne hquote _ u v

end TdsClient.Text.Quoted

namespace TdsClient.Uuid

open Number.Digits

/-- The groups of an identifier are the digits of its word. -/
theorem groups_eq (u : Uuid) :
    u.group 0 8 ++ (u.group 8 4 ++ (u.group 12 4 ++ (u.group 16 4 ++ u.group 20 12))) =
      (hex 32 u.word.toNat).toList := by
  have hlength : (hex 32 u.word.toNat).toList.length = 32 := by
    rw [String.length_toList]
    exact length_hex (by decide) (Nat.lt_of_lt_of_eq u.word.isLt (by decide))
  have hjoin : ∀ start length, u.group start length ++
      (hex 32 u.word.toNat).toList.drop (start + length) =
        (hex 32 u.word.toNat).toList.drop start := by
    intro start length
    unfold group
    rw [← List.drop_drop, List.take_append_drop]
  have hlast := hjoin 20 12
  rw [List.drop_of_length_le (Nat.le_of_eq hlength), List.append_nil] at hlast
  rw [hlast, hjoin 16 4, hjoin 12 4, hjoin 8 4, hjoin 0 8, List.drop_zero]

/-- Different identifiers are written differently. -/
theorem text_injective {u v : Uuid} (h : u.text = v.text) : u = v := by
  have hlength : ∀ {start length : Nat}, start + length ≤ 32 →
      (u.group start length).length = (v.group start length).length := by
    intro start length hinside
    rw [length_group u hinside, length_group v hinside]
  have hlist := congrArg String.toList h
  rw [toList_text, toList_text] at hlist
  simp only [List.append_assoc, List.cons_append] at hlist
  obtain ⟨hfirst, hlist⟩ := List.append_inj hlist (hlength (by decide))
  obtain ⟨hsecond, hlist⟩ := List.append_inj (List.cons.inj hlist).2 (hlength (by decide))
  obtain ⟨hthird, hlist⟩ := List.append_inj (List.cons.inj hlist).2 (hlength (by decide))
  obtain ⟨hfourth, hlist⟩ := List.append_inj (List.cons.inj hlist).2 (hlength (by decide))
  have hdigits : (hex 32 u.word.toNat).toList = (hex 32 v.word.toNat).toList := by
    rw [← groups_eq, ← groups_eq, hfirst, hsecond, hthird, hfourth, (List.cons.inj hlist).2]
  have hvalue := congrArg (fun digits => hexValue (digits.map Char.toUpper)) hdigits
  simp only [hexValue_hex] at hvalue
  exact congrArg Uuid.mk (BitVec.eq_of_toNat_eq hvalue)

end TdsClient.Uuid
