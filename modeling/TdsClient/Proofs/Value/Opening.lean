import TdsClient.Proofs.Number.Shortest
import TdsClient.Proofs.Text.Quoting
import TdsClient.Proofs.Value.Framing

/-!
# How literals begin

The first character of a literal leaves a few kinds of value that it may be
the literal of, and often a single one. It is never a character that ends
the literal in front of it, so that items and closing brackets cannot be
taken for each other.

## Main definitions

* `Value.opening` — what the first character of a literal tells.
* `Value.Opening.Leaves` — the kinds of value that it leaves.

## Main results

* `opens_literal` — every literal begins as its value says.
* `leaves_of_append_eq` — texts that begin with literals, if they are the same.
-/

namespace TdsClient

open Number

namespace Value

/-! ## First characters -/

/-- What the first character of a literal tells of the kind of its value. -/
inductive Opening
  | word
  | decimal
  | text
  | bytes
  | dated
  | uuid
  | list
  | round
  | curly
  | emptySet
  | range
  | parameter
  | wrapper
  | hidden
deriving DecidableEq

/-- The characters that literals other than words begin with. -/
def openings : List (Char × Opening) :=
  [('D', .decimal), ('\'', .text), ('"', .text), ('b', .bytes), ('d', .dated), ('U', .uuid),
    ('[', .list), ('(', .round), ('\x7b', .curly), ('s', .emptySet), ('r', .range),
    ('P', .parameter), ('S', .wrapper), ('<', .hidden)]

/-- What a first character tells. -/
def Opening.ofChar (c : Char) : Opening := (openings.lookup c).getD .word

/-- What the first character of the literal tells. -/
def opening : Value → Opening
  | .null => .word
  | .bool _ => .word
  | .int _ => .word
  | .float _ => .word
  | .decimal _ => .decimal
  | .text _ => .text
  | .bytes _ => .bytes
  | .byteArray _ => .bytes
  | .memoryView _ => .hidden
  | .dateTime _ => .dated
  | .date _ => .dated
  | .time _ => .dated
  | .uuid _ => .uuid
  | .list _ => .list
  | .tuple _ => .round
  | .dictionary _ => .curly
  | .set items => if items.isEmpty then .emptySet else .curly
  | .stream _ => .hidden
  | .foreign .complex => .round
  | .foreign .object => .hidden
  | .foreign .duration => .dated
  | .foreign .range => .range
  | .parameter .. => .parameter
  | .typed _ => .wrapper

/-- The values that are written as one word. -/
inductive IsWord : Value → Prop
  | null : IsWord .null
  | bool (b : Bool) : IsWord (.bool b)
  | int (n : Int) : IsWord (.int n)
  | float (x : Binary64) : IsWord (.float x)

/-- The kinds of value that a first character leaves. -/
def Opening.Leaves : Opening → Value → Prop
  | .word, v => v.IsWord
  | .decimal, v => ∃ d, v = .decimal d
  | .text, v => ∃ s, v = .text s
  | .bytes, v => (∃ s, v = .bytes s) ∨ ∃ s, v = .byteArray s
  | .dated, v => (∃ t, v = .dateTime t) ∨ (∃ d, v = .date d) ∨ (∃ t, v = .time t) ∨
      v = .foreign .duration
  | .uuid, v => ∃ u, v = .uuid u
  | .list, v => ∃ items, v = .list items
  | .round, v => (∃ items, v = .tuple items) ∨ v = .foreign .complex
  | .curly, v => (∃ entries, v = .dictionary entries) ∨ ∃ item rest, v = .set (item :: rest)
  | .emptySet, v => v = .set []
  | .range, v => v = .foreign .range
  | .parameter, v => ∃ value output, v = .parameter value output
  | .wrapper, v => ∃ w, v = .typed w
  | .hidden, v => v.showsIdentity = true

theorem leaves_opening (v : Value) : v.opening.Leaves v := by
  cases v with
  | null => exact .null
  | bool b => exact .bool b
  | int n => exact .int n
  | float x => exact .float x
  | decimal d => exact ⟨d, rfl⟩
  | text s => exact ⟨s, rfl⟩
  | bytes s => exact .inl ⟨s, rfl⟩
  | byteArray s => exact .inr ⟨s, rfl⟩
  | memoryView s => rfl
  | dateTime t => exact .inl ⟨t, rfl⟩
  | date d => exact .inr (.inl ⟨d, rfl⟩)
  | time t => exact .inr (.inr (.inl ⟨t, rfl⟩))
  | uuid u => exact ⟨u, rfl⟩
  | list items => exact ⟨items, rfl⟩
  | tuple items => exact .inl ⟨items, rfl⟩
  | dictionary entries => exact .inl ⟨entries, rfl⟩
  | set items =>
      cases items with
      | nil => rfl
      | cons item rest => exact .inr ⟨item, rest, rfl⟩
  | stream items => rfl
  | foreign kind =>
      cases kind with
      | complex => exact .inr rfl
      | object => rfl
      | duration => exact .inr (.inr (.inr rfl))
      | range => rfl
  | parameter value output => exact ⟨value, output, rfl⟩
  | typed w => exact ⟨w, rfl⟩

/-- The characters of the literal. -/
def chars (v : Value) : List Char := (literal v).toList

/-- Whether the first character of a text tells something, and is no stop. -/
def Opens (text : List Char) (opening : Opening) : Prop :=
  ∃ c ∈ text.head?, Opening.ofChar c = opening ∧ isStop c = false

theorem toList_applied (name : String) (arguments : List String) :
    (applied name arguments).toList =
      name.toList ++ '(' :: ((", ".intercalate arguments).toList ++ [')']) := by
  simp [applied]

theorem opens_append {s : List Char} {o : Opening} (h : Opens s o) (t : List Char) :
    Opens (s ++ t) o := by
  obtain ⟨c, hhead, hc⟩ := h
  obtain ⟨rest, rfl⟩ := List.head?_eq_some_iff.1 hhead
  exact ⟨c, rfl, hc⟩

theorem opens_applied {name : String} {o : Opening} (h : Opens name.toList o)
    (arguments : List String) : Opens (applied name arguments).toList o := by
  rw [toList_applied]
  exact opens_append h _

theorem ofChar_of_not_mem {c : Char} (hc : c ∉ openings.map Prod.fst) :
    Opening.ofChar c = .word := by
  have hnone : openings.lookup c = none := by
    rw [List.lookup_eq_none_iff]
    intro entry hentry
    rw [bne_iff_ne]
    rintro rfl
    exact hc (List.mem_map_of_mem hentry)
  rw [Opening.ofChar, hnone]
  rfl

/-- A digit begins a word. -/
theorem opens_digit {c : Char} (hc : c.isDigit = true) (rest : List Char) :
    Opens (c :: rest) .word := by
  have hopening : ∀ d ∈ openings.map Prod.fst, d.isDigit = false := by
    simp [openings]
  refine ⟨c, rfl, ofChar_of_not_mem fun hmem => ?_, ?_⟩
  · rw [hopening c hmem] at hc
    cases hc
  · refine Bool.eq_false_iff.2 fun hstop => ?_
    rw [isDigit_of_isStop hstop] at hc
    cases hc

theorem opens_of_unsigned? {text : List Char} {numeral : Numeral}
    (h : Numeral.unsigned? false text = some numeral) : Opens text .word := by
  cases text with
  | nil => cases h
  | cons c rest =>
      rcases Numeral.isDigit_or_of_unsigned? h with hdigit | rfl
      · exact opens_digit hdigit rest
      · exact ⟨'.', rfl, rfl, rfl⟩

theorem opens_toString (n : Nat) : Opens (toString n).toList .word := by
  have h := Digits.writes_text n
  cases hdigits : (Digits.text n).toList with
  | nil => exact absurd hdigits h.ne_nil
  | cons c rest =>
      have hc : c.isDigit = true := h.isDigit c (by rw [hdigits]; exact List.mem_cons_self)
      exact hdigits ▸ opens_digit hc rest

theorem opens_int (n : Int) : Opens (toString n).toList .word := by
  cases n with
  | ofNat m => exact opens_toString m
  | negSucc m =>
      show Opens ("-" ++ toString (m + 1)).toList .word
      exact ⟨'-', by simp, rfl, rfl⟩

theorem opens_magnitudeText (m : Nat) (e : Int) :
    Opens (Binary64.magnitudeText m e).toList .word := by
  unfold Binary64.magnitudeText
  split
  · exact ⟨'0', by simp, rfl, rfl⟩
  · obtain ⟨coefficient, exponent, hread, -⟩ := Binary64.unsigned?_decimalText false
      (Binary64.shortest m e).1 (Binary64.shortest m e).2
    exact opens_of_unsigned? hread

theorem opens_float (x : Binary64) : Opens x.text.toList .word := by
  cases x with
  | nan => exact ⟨'n', by simp [Binary64.text], rfl, rfl⟩
  | infinite negative =>
      cases negative
      · exact ⟨'i', by simp [Binary64.text], rfl, rfl⟩
      · exact ⟨'-', by simp [Binary64.text], rfl, rfl⟩
  | finite negative m e =>
      rw [Binary64.text_finite, String.toList_append]
      cases negative
      · exact opens_magnitudeText m e
      · exact ⟨'-', by simp, rfl, rfl⟩

theorem opens_quote {quote : Char} (hquote : Text.Quoted.IsQuote quote) (rest : List Char) :
    Opens (quote :: rest) .text := by
  rcases hquote with rfl | rfl <;> exact ⟨_, rfl, rfl, rfl⟩

theorem opens_typed (w : Typed Value) : Opens (typedLiteral w).toList .wrapper := by
  cases w with
  | integer width value =>
      cases width <;> exact opens_applied ⟨'S', by simp [Typed.name], rfl, rfl⟩ _
  | _ => exact opens_applied ⟨'S', by simp, rfl, rfl⟩ _

/-- Every literal begins as its value says, and not with a stop. -/
theorem opens_literal (v : Value) : Opens v.chars v.opening := by
  unfold chars
  cases v with
  | null => exact ⟨'N', by simp [literal], rfl, rfl⟩
  | bool b =>
      cases b
      · exact ⟨'F', by simp [literal], rfl, rfl⟩
      · exact ⟨'T', by simp [literal], rfl, rfl⟩
  | int n => exact opens_int n
  | float x => exact opens_float x
  | decimal d => exact opens_applied ⟨'D', by simp, rfl, rfl⟩ _
  | text s =>
      rw [literal, Text.Quoted.ofText, String.toList_ofList]
      exact opens_quote (Text.Quoted.isQuote_quoteFor _) _
  | bytes b => exact ⟨'b', by simp [literal, Text.Quoted.ofBytes], rfl, rfl⟩
  | byteArray b => exact opens_applied ⟨'b', by simp, rfl, rfl⟩ _
  | memoryView b => exact ⟨'<', by simp [literal], rfl, rfl⟩
  | dateTime t => exact opens_applied ⟨'d', by simp, rfl, rfl⟩ _
  | date d => exact opens_applied ⟨'d', by simp, rfl, rfl⟩ _
  | time t => exact opens_applied ⟨'d', by simp, rfl, rfl⟩ _
  | uuid u => exact opens_applied ⟨'U', by simp, rfl, rfl⟩ _
  | list items => exact ⟨'[', by simp [literal], rfl, rfl⟩
  | tuple items =>
      refine ⟨'(', ?_, rfl, rfl⟩
      rw [literal]
      unfold tupleLiteral
      split <;> simp
  | dictionary entries => exact ⟨'\x7b', by simp [literal], rfl, rfl⟩
  | set items =>
      cases items with
      | nil => exact ⟨'s', by simp [literal, setLiteral, literals], rfl, rfl⟩
      | cons item rest => exact ⟨'\x7b', by simp [literal, setLiteral, literals], rfl, rfl⟩
  | stream items => exact ⟨'<', by simp [literal], rfl, rfl⟩
  | foreign kind =>
      cases kind with
      | complex => exact ⟨'(', by simp [literal, foreignLiteral], rfl, rfl⟩
      | object => exact ⟨'<', by simp [literal, foreignLiteral], rfl, rfl⟩
      | duration => exact ⟨'d', by simp [literal, foreignLiteral], rfl, rfl⟩
      | range => exact ⟨'r', by simp [literal, foreignLiteral], rfl, rfl⟩
  | parameter value output => exact opens_applied ⟨'P', by simp, rfl, rfl⟩ _
  | typed w => exact opens_typed w

theorem begins_literal (v : Value) : Begins v.chars := by
  obtain ⟨c, hc, -, hstop⟩ := opens_literal v
  exact ⟨c, hc, hstop⟩

/-- What begins with the literal of a value is of a kind that its first character leaves. -/
theorem leaves_of_append_eq {a b : Value} {u v : List Char} (h : a.chars ++ u = b.chars ++ v) :
    a.opening.Leaves b := by
  obtain ⟨c, hc, hopening, -⟩ := opens_append (opens_literal a) u
  obtain ⟨d, hd, hopening', -⟩ := opens_append (opens_literal b) v
  rw [h] at hc
  rw [← hopening, Option.mem_unique hc hd, hopening']
  exact leaves_opening b

end Value

end TdsClient
