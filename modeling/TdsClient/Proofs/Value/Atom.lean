import TdsClient.Proofs.Commit
import TdsClient.Proofs.Value.Opening
import TdsClient.Proofs.Value.Ordered

/-!
# Literals of values that hold no others

The literal of a value that holds no others is a word, a quoted literal, or
a name with quoted literals or numbers behind it. Each of them tells where
it ends, and the value. That takes floats of the format, since others may
have the digits of one of these.

## Main definitions

* `Value.isPlain` — a value whose literal tells all that there is to it.
* `Value.Cut` — a literal that can be cut off from what follows.

## Main results

* `word_injective` — truth values, integers, floats and null are told apart.
* `cut_word`, `cut_text`, `cut_decimal` and so on — one for each kind of value.
-/

namespace TdsClient

open Number

namespace Value

/-! ## Plain values -/

mutual

/-- Whether all floats that a value holds are of the format, and all wrappers are such that their
literals tell what they hold. -/
def isPlain : Value → Bool
  | .float x => x.inFormat
  | .list items => arePlain items
  | .tuple items => arePlain items
  | .dictionary entries => entriesPlain entries
  | .set items => arePlain items
  | .parameter value _ => isPlain value
  | .typed (.untyped value size) => isPlain value && size = some Typed.noSize
  | .typed (.decimal value _ _) => isPlain value && !showsIdentity value
  | _ => true

/-- Whether all items are plain. -/
def arePlain : List Value → Bool
  | [] => true
  | item :: rest => isPlain item && arePlain rest

/-- Whether all keys and values are plain. -/
def entriesPlain : List (Value × Value) → Bool
  | [] => true
  | (key, value) :: rest => isPlain key && isPlain value && entriesPlain rest

end

theorem isPlain_of_mem {items : List Value} (h : arePlain items = true) :
    ∀ item ∈ items, item.isPlain = true := by
  induction items with
  | nil => exact nofun
  | cons item rest ih =>
      rw [arePlain, Bool.and_eq_true] at h
      exact List.forall_mem_cons.2 ⟨h.1, ih h.2⟩

theorem isPlain_of_mem_entries {entries : List (Value × Value)} (h : entriesPlain entries = true) :
    ∀ entry ∈ entries, entry.1.isPlain = true ∧ entry.2.isPlain = true := by
  induction entries with
  | nil => exact nofun
  | cons entry rest ih =>
      simp only [entriesPlain, Bool.and_eq_true] at h
      exact List.forall_mem_cons.2 ⟨h.1, ih h.2⟩

theorem showsIdentity_of_mem {items : List Value} (h : anyShowsIdentity items = false) :
    ∀ item ∈ items, item.showsIdentity = false := by
  induction items with
  | nil => exact nofun
  | cons item rest ih =>
      rw [anyShowsIdentity, Bool.or_eq_false_iff] at h
      exact List.forall_mem_cons.2 ⟨h.1, ih h.2⟩

theorem showsIdentity_of_mem_entries {entries : List (Value × Value)}
    (h : entryShowsIdentity entries = false) :
    ∀ entry ∈ entries, entry.1.showsIdentity = false ∧ entry.2.showsIdentity = false := by
  induction entries with
  | nil => exact nofun
  | cons entry rest ih =>
      simp only [entryShowsIdentity, Bool.or_eq_false_iff] at h
      exact List.forall_mem_cons.2 ⟨h.1, ih h.2⟩

/-! ## Words -/

/-- The letters of the numbers that are not finite. -/
def specialLetters : List Char := ['i', 'n', 'f', 'a']

theorem mem_text_float (x : Binary64) :
    ∀ c ∈ x.text.toList, Binary64.IsNumeric c ∨ c ∈ specialLetters := by
  cases x with
  | nan =>
      have hletters : ∀ c ∈ "nan".toList, c ∈ specialLetters := by simp [specialLetters]
      exact fun c hc => .inr (hletters c hc)
  | infinite negative =>
      cases negative <;> simp [Binary64.text, Binary64.IsNumeric, specialLetters]
  | finite negative m e =>
      intro c hc
      rw [Binary64.text_finite, String.toList_append, List.mem_append] at hc
      rcases hc with hsign | hmagnitude
      · cases negative
        · cases hsign
        · refine .inl (.inr ?_)
          rw [List.mem_singleton.1 hsign]
          decide
      · unfold Binary64.magnitudeText at hmagnitude
        split at hmagnitude
        · refine .inl ?_
          revert c
          simp [Binary64.IsNumeric]
        · exact .inl (Binary64.isNumeric_decimalText _ _ c hmagnitude)

/-- A float is not written like an integer: with a point, an exponent, or in letters. -/
theorem letter_mem_float (x : Binary64) :
    ∃ c ∈ ['.', 'e', 'n'], c ∈ x.text.toList := by
  cases x with
  | nan => exact ⟨'n', by decide, by decide⟩
  | infinite negative => exact ⟨'n', by decide, by cases negative <;> decide⟩
  | finite negative m e =>
      rcases Binary64.mark_mem_text negative m e with hpoint | hexponent
      · exact ⟨'.', by decide, hpoint⟩
      · exact ⟨'e', by decide, hexponent⟩

theorem not_isStop_word {v : Value} (hv : v.IsWord) : ∀ c ∈ v.chars, isStop c = false := by
  cases hv with
  | null => simp [chars, literal, isStop]
  | bool b => cases b <;> simp [chars, literal, isStop]
  | int n =>
      intro c hc
      refine Bool.eq_false_iff.2 fun hstop => ?_
      refine not_mem_toString (isDigit_of_isStop hstop) ?_ n hc
      rintro rfl
      cases hstop
  | float x =>
      intro c hc
      refine Bool.eq_false_iff.2 fun hstop => ?_
      have hnumeric : ∀ d ∈ [',', ':', ')', ']', '\x7d'],
          ¬ (Binary64.IsNumeric d ∨ d ∈ specialLetters) := by
        simp [Binary64.IsNumeric, specialLetters]
      exact hnumeric c (of_decide_eq_true hstop) (mem_text_float x c hc)

/-- The letters that words begin with that are no numbers. -/
def nameLetters : List Char := ['N', 'T', 'F']

theorem not_mem_int (n : Int) : ∀ c ∈ nameLetters, c ∉ (int n).chars := by
  intro c hc
  have hdigit : ∀ d ∈ nameLetters, d.isDigit = false ∧ d ≠ '-' := by simp [nameLetters]
  exact not_mem_toString (hdigit c hc).1 (hdigit c hc).2 n

theorem not_mem_float (x : Binary64) : ∀ c ∈ nameLetters, c ∉ (float x).chars := by
  intro c hc hmem
  have hnumeric : ∀ d ∈ nameLetters, ¬ (Binary64.IsNumeric d ∨ d ∈ specialLetters) := by
    simp [nameLetters, Binary64.IsNumeric, specialLetters]
  exact hnumeric c hc (mem_text_float x c hmem)

/-- Different integers are written differently. -/
theorem toString_int_injective {m n : Int} (h : toString m = toString n) : m = n := by
  have hsign : ∀ k l : Nat, toString k ≠ "-" ++ toString l := by
    intro k l heq
    have hmem : '-' ∈ (toString k).toList := by simp [heq]
    cases isDigit_of_mem_toString hmem
  cases m with
  | ofNat k =>
      cases n with
      | ofNat l => exact congrArg Int.ofNat (numeral_injective h)
      | negSucc l => exact absurd h (hsign k (l + 1))
  | negSucc k =>
      cases n with
      | ofNat l => exact absurd h.symm (hsign l (k + 1))
      | negSucc l =>
          have hnumeral : toString (k + 1) = toString (l + 1) := (String.append_right_inj "-").1 h
          exact congrArg Int.negSucc (Nat.succ.inj (numeral_injective hnumeral))

theorem int_ne_float (n : Int) (x : Binary64) : (int n).chars ≠ (float x).chars := by
  intro h
  obtain ⟨c, hc, hmem⟩ := letter_mem_float x
  have hdigit : ∀ d ∈ ['.', 'e', 'n'], d.isDigit = false ∧ d ≠ '-' := by simp
  refine not_mem_toString (hdigit c hc).1 (hdigit c hc).2 n ?_
  rwa [show (toString n).toList = x.text.toList from h]

/-- Words tell what they are written for. -/
theorem word_injective {a b : Value} (ha : a.IsWord) (hb : b.IsWord) (hplain : a.isPlain = true)
    (hplain' : b.isPlain = true) (h : a.chars = b.chars) : a = b := by
  have hname : ∀ {v w : Value}, (∃ c ∈ nameLetters, c ∈ v.chars) →
      (∀ c ∈ nameLetters, c ∉ w.chars) → v.chars ≠ w.chars := by
    rintro v w ⟨c, hc, hmem⟩ hnot heq
    exact hnot c hc (heq ▸ hmem)
  have hnull : ∃ c ∈ nameLetters, c ∈ chars .null := ⟨'N', by decide, by decide⟩
  have hbool : ∀ b, ∃ c ∈ nameLetters, c ∈ chars (.bool b) := by
    intro b
    cases b with
    | false => exact ⟨'F', by decide, by decide⟩
    | true => exact ⟨'T', by decide, by decide⟩
  cases ha with
  | null =>
      cases hb with
      | null => rfl
      | bool b => cases b <;> exact absurd h (by decide)
      | int n => exact absurd h (hname hnull (not_mem_int n))
      | float x => exact absurd h (hname hnull (not_mem_float x))
  | bool b =>
      cases hb with
      | null => cases b <;> exact absurd h (by decide)
      | bool b' => cases b <;> cases b' <;> first | rfl | exact absurd h (by decide)
      | int n => exact absurd h (hname (hbool b) (not_mem_int n))
      | float x => exact absurd h (hname (hbool b) (not_mem_float x))
  | int n =>
      cases hb with
      | null => exact absurd h.symm (hname hnull (not_mem_int n))
      | bool b => exact absurd h.symm (hname (hbool b) (not_mem_int n))
      | int m => exact congrArg int (toString_int_injective (String.toList_inj.1 h))
      | float x => exact absurd h (int_ne_float n x)
  | float x =>
      cases hb with
      | null => exact absurd h.symm (hname hnull (not_mem_float x))
      | bool b => exact absurd h.symm (hname (hbool b) (not_mem_float x))
      | int n => exact absurd h.symm (int_ne_float n x)
      | float y =>
          exact congrArg float (Binary64.text_injective hplain hplain' (String.toList_inj.1 h))

/-! ## Literals made of one literal -/

/-- A literal that can be cut off from what follows, if its value is plain. -/
def Cut (a : Value) : Prop := Cuts chars (fun b => b.isPlain = true) a

theorem cut_word {a : Value} (ha : a.IsWord) (hplain : a.isPlain = true) : a.Cut := by
  intro b hb u v hu hv h
  have hword : b.IsWord := by
    have hleaves := leaves_of_append_eq h
    cases ha <;> exact hleaves
  obtain ⟨hsame, hrest⟩ := stops_cut (not_isStop_word ha) (not_isStop_word hword) hu hv h
  exact ⟨word_injective ha hword hplain hb hsame, hrest⟩

theorem cut_text (s : String) : (text s).Cut := by
  intro b hb u v hu hv h
  obtain ⟨t, rfl⟩ := leaves_of_append_eq h
  obtain ⟨rfl, hrest⟩ := Text.Quoted.ofText_cut h
  exact ⟨rfl, hrest⟩

theorem applied_cut {name s t : String} {u v : List Char}
    (h : (applied name [s]).toList ++ u = (applied name [t]).toList ++ v) :
    s.toList ++ ')' :: u = t.toList ++ ')' :: v := by
  simpa [toList_applied] using h

theorem cut_decimal (d : Decimal) : (decimal d).Cut := by
  intro b hb u v hu hv h
  obtain ⟨d', rfl⟩ := leaves_of_append_eq h
  obtain ⟨htext, hrest⟩ := Text.Quoted.ofText_cut (applied_cut h)
  exact ⟨congrArg decimal (Decimal.text_injective htext), (List.cons.inj hrest).2⟩

theorem cut_uuid (w : Uuid) : (uuid w).Cut := by
  intro b hb u v hu hv h
  obtain ⟨w', rfl⟩ := leaves_of_append_eq h
  obtain ⟨htext, hrest⟩ := Text.Quoted.ofText_cut (applied_cut h)
  exact ⟨congrArg uuid (Uuid.text_injective htext), (List.cons.inj hrest).2⟩

/-- Constant byte strings are written otherwise than those that can be changed. -/
theorem bytes_ne_byteArray (s t : Bytes) (u v : List Char) :
    (bytes s).chars ++ u ≠ (byteArray t).chars ++ v := by
  intro h
  simp [chars, literal, Text.Quoted.ofBytes, toList_applied] at h
  rcases Text.Quoted.isQuote_quoteFor (s.map fun b => Char.ofNat b.toNat) with hquote | hquote <;>
    · rw [hquote] at h
      exact absurd h.1 (by decide)

theorem cut_bytes (s : Bytes) : (bytes s).Cut := by
  intro b hb u v hu hv h
  rcases leaves_of_append_eq h with ⟨t, rfl⟩ | ⟨t, rfl⟩
  · obtain ⟨rfl, hrest⟩ := Text.Quoted.ofBytes_cut h
    exact ⟨rfl, hrest⟩
  · exact absurd h (bytes_ne_byteArray s t u v)

theorem cut_byteArray (s : Bytes) : (byteArray s).Cut := by
  intro b hb u v hu hv h
  rcases leaves_of_append_eq h with ⟨t, rfl⟩ | ⟨t, rfl⟩
  · exact absurd h.symm (bytes_ne_byteArray t s v u)
  · obtain ⟨rfl, hrest⟩ := Text.Quoted.ofBytes_cut (applied_cut h)
    exact ⟨rfl, (List.cons.inj hrest).2⟩

/-! ## Dates and times -/

theorem not_isStop_digits (n : Nat) : ∀ c ∈ (Digits.text n).toList, isStop c = false := by
  intro c hc
  refine Bool.eq_false_iff.2 fun hstop => ?_
  have hdigit : c.isDigit = true := (Digits.writes_text n).isDigit c hc
  rw [isDigit_of_isStop hstop] at hdigit
  cases hdigit

theorem cuts_numeral (n : Nat) : Cuts (fun n => (Digits.text n).toList) (fun _ => True) n := by
  intro m _ u v hu hv h
  obtain ⟨hsame, hrest⟩ := stops_cut (not_isStop_digits n) (not_isStop_digits m) hu hv h
  exact ⟨numeral_injective (String.toList_inj.1 hsame), hrest⟩

/-- Numbers between brackets. -/
theorem applied_numerals_cut {name : String} {xs ys : List Nat} {u v : List Char}
    (h : (applied name (xs.map Digits.text)).toList ++ u =
      (applied name (ys.map Digits.text)).toList ++ v) : xs = ys ∧ u = v := by
  have hbegins : ∀ n : Nat, Begins (Digits.text n).toList := by
    intro n
    obtain ⟨c, hc, -, hstop⟩ := opens_toString n
    exact ⟨c, hc, hstop⟩
  have hnumbers : joined (fun n => (Digits.text n).toList) xs ++ ')' :: u =
      joined (fun n => (Digits.text n).toList) ys ++ ')' :: v := by
    simp only [toList_applied, toList_intercalate_map, List.append_assoc, List.cons_append,
      List.nil_append] at h
    exact (List.cons.inj (List.append_cancel_left h)).2
  have hclose : Closes ')' := by decide
  obtain ⟨hsame, -, hrest⟩ := joined_cut (fun n _ => cuts_numeral n) (fun _ _ => trivial) hbegins
    hclose hclose hnumbers
  exact ⟨hsame, hrest⟩

/-- The fields of a time that are shown. -/
def shownFields (t : Time) : List Nat :=
  [t.hour, t.minute] ++
    (if t.microsecond ≠ 0 then [t.second, t.microsecond]
     else if t.second ≠ 0 then [t.second]
     else [])

theorem arguments_time (t : Time) : t.arguments = (shownFields t).map Digits.text := by
  unfold Time.arguments shownFields
  split
  · rfl
  · split <;> rfl

/-- A field that is not shown is zero. -/
theorem shownFields_injective {s t : Time} (h : shownFields s = shownFields t) : s = t := by
  obtain ⟨hour, minute, second, microsecond⟩ := s
  obtain ⟨hour', minute', second', microsecond'⟩ := t
  unfold shownFields at h
  grind

theorem chars_dateTime (t : DateTime) : (dateTime t).chars =
    (applied "datetime.datetime"
      ((t.date.fields ++ shownFields t.time).map Digits.text)).toList := by
  rw [chars, literal, arguments_time, List.map_append]
  rfl

theorem chars_time (t : Time) :
    (time t).chars = (applied "datetime.time" ((shownFields t).map Digits.text)).toList := by
  rw [chars, literal, arguments_time]

theorem cut_dateTime (t : DateTime) : (dateTime t).Cut := by
  intro b hb u v hu hv h
  rcases leaves_of_append_eq h with ⟨t', rfl⟩ | ⟨d, rfl⟩ | ⟨t', rfl⟩ | rfl
  · rw [chars_dateTime, chars_dateTime] at h
    obtain ⟨hfields, hrest⟩ := applied_numerals_cut h
    obtain ⟨hdate, htime⟩ := List.append_inj hfields rfl
    have hsame : t = t' := by
      cases t
      cases t'
      rw [DateTime.mk.injEq]
      exact ⟨fields_date_inj.1 hdate, shownFields_injective htime⟩
    exact ⟨congrArg dateTime hsame, hrest⟩
  all_goals simp [chars, literal, foreignLiteral, toList_applied] at h

theorem cut_date (d : Date) : (date d).Cut := by
  intro b hb u v hu hv h
  rcases leaves_of_append_eq h with ⟨t, rfl⟩ | ⟨d', rfl⟩ | ⟨t, rfl⟩ | rfl
  case inr.inl =>
    obtain ⟨hfields, hrest⟩ := applied_numerals_cut h
    exact ⟨congrArg date (fields_date_inj.1 hfields), hrest⟩
  all_goals simp [chars, literal, foreignLiteral, toList_applied] at h

theorem cut_time (t : Time) : (time t).Cut := by
  intro b hb u v hu hv h
  rcases leaves_of_append_eq h with ⟨t', rfl⟩ | ⟨d, rfl⟩ | ⟨t', rfl⟩ | rfl
  case inr.inr.inl =>
    rw [chars_time, chars_time] at h
    obtain ⟨hfields, hrest⟩ := applied_numerals_cut h
    exact ⟨congrArg time (shownFields_injective hfields), hrest⟩
  all_goals simp [chars, literal, foreignLiteral, toList_applied] at h

theorem cut_duration : (foreign .duration).Cut := by
  intro b hb u v hu hv h
  rcases leaves_of_append_eq h with ⟨t, rfl⟩ | ⟨d, rfl⟩ | ⟨t, rfl⟩ | rfl
  case inr.inr.inr => exact ⟨rfl, List.append_cancel_left h⟩
  all_goals simp [chars, literal, foreignLiteral, toList_applied] at h

theorem cut_range : (foreign .range).Cut := by
  intro b hb u v hu hv h
  cases leaves_of_append_eq h
  exact ⟨rfl, List.append_cancel_left h⟩

end Value

end TdsClient
