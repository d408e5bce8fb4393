import TdsClient.Proofs.Value.Atom

/-!
# What a literal is the literal of

The literal of a value tells the value, with the kinds of all it holds.
Containers are taken apart item by item: if all items can be cut off from
what follows them, so can the container. A tuple of one item is told by the
comma behind it, and a dictionary is told from a set by its first colon.
Wrappers that give a type are taken apart into their names, their values
and what else they have been given.

Objects that are written by their identity are left out, since two of them
never have the same literal. An untyped wrapper does not show its size, so
values are compared without such sizes.

## Main definitions

* `unsized` — a value without the sizes that its literal does not show.

## Main results

* `cut_literal` — a literal tells where it ends, and its value.
* `literal_injective` — different values have different literals.
* `sameLiteral_iff` — when two values made apart have the same literal.
-/

namespace TdsClient

open Number

namespace Value

/-! ## Containers -/

section

variable {items : List Value} {entries : List (Value × Value)}

theorem chars_list (items : List Value) :
    (list items).chars = '[' :: (joined chars items ++ [']']) := by
  have hitems := toList_intercalate_map literal items
  rw [chars, literal_list, String.toList_append, String.toList_append, hitems]
  rfl

theorem cut_list (hitems : ∀ item ∈ items, item.Cut) : (list items).Cut := by
  intro b hb u v hu hv h
  obtain ⟨items', rfl⟩ := leaves_of_append_eq h
  rw [chars_list, chars_list] at h
  simp only [List.cons_append, List.append_assoc, List.nil_append] at h
  have hclose : Closes ']' := by decide
  obtain ⟨rfl, -, hrest⟩ := joined_cut hitems (isPlain_of_mem hb) begins_literal hclose hclose
    (List.cons.inj h).2
  exact ⟨rfl, hrest⟩

/-- The characters of an entry. -/
def entryChars (entry : Value × Value) : List Char := entry.1.chars ++ ':' :: ' ' :: entry.2.chars

theorem begins_entry (entry : Value × Value) : Begins (entryChars entry) := by
  obtain ⟨c, hc, -, hstop⟩ := opens_append (opens_literal entry.1) (':' :: ' ' :: entry.2.chars)
  exact ⟨c, hc, hstop⟩

/-- An entry is cut off at its colon and behind its value. -/
theorem cuts_entry {entry : Value × Value} (hkey : entry.1.Cut) (hvalue : entry.2.Cut) :
    Cuts entryChars (fun e => e.1.isPlain = true ∧ e.2.isPlain = true) entry := by
  intro entry' hplain u v hu hv h
  simp only [entryChars, List.append_assoc, List.cons_append] at h
  obtain ⟨hsame, hrest⟩ :=
    hkey entry'.1 hplain.1 _ _ (stops_cons rfl _) (stops_cons rfl _) h
  simp only [List.cons.injEq, true_and] at hrest
  obtain ⟨hsame', hrest'⟩ := hvalue entry'.2 hplain.2 u v hu hv hrest
  exact ⟨Prod.ext hsame hsame', hrest'⟩

theorem chars_dictionary (entries : List (Value × Value)) :
    (dictionary entries).chars = '\x7b' :: (joined entryChars entries ++ ['\x7d']) := by
  have hliterals : entryLiterals entries =
      entries.map fun entry => entry.1.literal ++ ": " ++ entry.2.literal := by
    induction entries with
    | nil => rfl
    | cons entry rest ih =>
        rw [entryLiterals, ih]
        rfl
  have hentry : ∀ entry : Value × Value,
      (entry.1.literal ++ ": " ++ entry.2.literal).toList = entryChars entry := by
    intro entry
    simp [entryChars, chars]
  rw [chars, literal, hliterals, String.toList_append, String.toList_append,
    toList_intercalate_map]
  simp only [hentry]
  rfl

theorem chars_set (item : Value) (rest : List Value) :
    (set (item :: rest)).chars = '\x7b' :: (joined chars (item :: rest) ++ ['\x7d']) := by
  have hitems := toList_intercalate_map literal (item :: rest)
  rw [← literals_eq_map] at hitems
  rw [chars, literal]
  show ("\x7b" ++ ", ".intercalate (literals (item :: rest)) ++ "\x7d").toList = _
  rw [String.toList_append, String.toList_append, hitems]
  rfl

/-- A dictionary is told from a set by its first colon. -/
theorem curly_ne {item : Value} {rest : List Value} {entries : List (Value × Value)}
    {u v : List Char}
    (hcut : ∀ key value, (key, value) ∈ entries → ∀ u v, Stops u → Stops v →
      key.chars ++ u = item.chars ++ v → u = v) :
    (dictionary entries).chars ++ u ≠ (set (item :: rest)).chars ++ v := by
  intro h
  rw [chars_dictionary, chars_set] at h
  simp only [List.cons_append, List.append_assoc, List.nil_append, joined] at h
  have hinside := (List.cons.inj h).2
  have hclose : Closes '\x7d' := by decide
  cases entries with
  | nil =>
      obtain ⟨c, hc, hstop⟩ := begins_literal item
      obtain ⟨letters, hletters⟩ := List.head?_eq_some_iff.1 hc
      rw [hletters] at hinside
      have hsame : '\x7d' = c := (List.cons.inj hinside).1
      rw [← hsame] at hstop
      cases hstop
  | cons entry entries =>
      simp only [entryChars, List.append_assoc, List.cons_append] at hinside
      have hbehind := hcut entry.1 entry.2 List.mem_cons_self _ _ (stops_cons rfl _)
        (stops_following hclose) hinside
      cases rest with
      | nil => cases (List.cons.inj hbehind).1
      | cons next rest => cases (List.cons.inj hbehind).1

theorem cut_dictionary
    (hentries : ∀ entry ∈ entries, entry.1.Cut ∧ entry.2.Cut) : (dictionary entries).Cut := by
  intro b hb u v hu hv h
  rcases leaves_of_append_eq h with ⟨entries', rfl⟩ | ⟨item, rest, rfl⟩
  · rw [chars_dictionary, chars_dictionary] at h
    simp only [List.cons_append, List.append_assoc, List.nil_append] at h
    have hclose : Closes '\x7d' := by decide
    obtain ⟨rfl, -, hrest⟩ := joined_cut
      (fun entry hmem => cuts_entry (hentries entry hmem).1 (hentries entry hmem).2)
      (isPlain_of_mem_entries hb) begins_entry hclose hclose (List.cons.inj h).2
    exact ⟨rfl, hrest⟩
  · have hitem : item.isPlain = true := isPlain_of_mem hb item List.mem_cons_self
    refine absurd h (curly_ne fun key value hmem u v hu hv heq => ?_)
    exact ((hentries (key, value) hmem).1 item hitem u v hu hv heq).2

theorem cut_set (hitems : ∀ item ∈ items, item.Cut) : (set items).Cut := by
  intro b hb u v hu hv h
  cases items with
  | nil =>
      cases leaves_of_append_eq h
      exact ⟨rfl, List.append_cancel_left h⟩
  | cons item rest =>
      rcases leaves_of_append_eq h with ⟨entries, rfl⟩ | ⟨item', rest', rfl⟩
      · refine absurd h.symm (curly_ne fun key value hmem u v hu hv heq => ?_)
        have hkey : key.isPlain = true := (isPlain_of_mem_entries hb (key, value) hmem).1
        exact ((hitems item List.mem_cons_self) key hkey v u hv hu heq.symm).2.symm
      · rw [chars_set, chars_set] at h
        simp only [List.cons_append, List.append_assoc, List.nil_append] at h
        have hclose : Closes '\x7d' := by decide
        obtain ⟨hsame, -, hrest⟩ := joined_cut hitems (isPlain_of_mem hb) begins_literal hclose
          hclose (List.cons.inj h).2
        exact ⟨congrArg set hsame, hrest⟩

/-- What follows the first item of a tuple: other items and the bracket, or a comma in their
place. -/
def tupleRest (rest : List Value) : List Char :=
  if rest.isEmpty then [',', ')'] else following chars rest ++ [')']

theorem chars_tuple (item : Value) (rest : List Value) :
    (tuple (item :: rest)).chars = '(' :: (item.chars ++ tupleRest rest) := by
  have hitems := toList_intercalate_map literal (item :: rest)
  rw [chars, literal_tuple]
  cases rest with
  | nil => simp [tupleLiteral, tupleRest, chars]
  | cons next rest =>
      show ("(" ++ ", ".intercalate ((item :: next :: rest).map literal) ++ ")").toList = _
      rw [String.toList_append, String.toList_append, hitems]
      simp [joined, tupleRest, chars]
      rfl

theorem stops_tupleRest (rest : List Value) (u : List Char) : Stops (tupleRest rest ++ u) := by
  cases rest with
  | nil => exact stops_cons rfl _
  | cons next rest => exact stops_cons rfl _

theorem tupleRest_cut {rest rest' : List Value} {u v : List Char} (hitems : ∀ item ∈ rest, item.Cut)
    (hplain : ∀ item ∈ rest', item.isPlain = true)
    (h : tupleRest rest ++ u = tupleRest rest' ++ v) : rest = rest' ∧ u = v := by
  have hclose : Closes ')' := by decide
  cases rest with
  | nil =>
      cases rest' with
      | nil => exact ⟨rfl, List.append_cancel_left h⟩
      | cons next rest' => simp [tupleRest, following] at h
  | cons next rest =>
      cases rest' with
      | nil => simp [tupleRest, following] at h
      | cons next' rest' =>
          have hfollowing : following chars (next :: rest) ++ ')' :: u =
              following chars (next' :: rest') ++ ')' :: v := by
            simpa [tupleRest] using h
          obtain ⟨hsame, -, hrest⟩ := following_cut hitems hplain hclose hclose hfollowing
          exact ⟨hsame, hrest⟩

/-- The number in brackets is no tuple. -/
theorem tuple_ne_complex (items : List Value) (u v : List Char) :
    (tuple items).chars ++ u ≠ (foreign .complex).chars ++ v := by
  intro h
  cases items with
  | nil => simp [chars, literal, literals, tupleLiteral, foreignLiteral] at h
  | cons item rest =>
      have hcomplex : (foreign .complex).chars = '(' :: (['1', '+', '2', 'j'] ++ [')']) := by
        simp [chars, literal, foreignLiteral]
      rw [chars_tuple, hcomplex] at h
      simp only [List.cons_append, List.append_assoc, List.nil_append] at h
      have hinside := (List.cons.inj h).2
      have hword : item.IsWord := by
        obtain ⟨c, hc, hopening, -⟩ := opens_append (opens_literal item) (tupleRest rest ++ u)
        rw [hinside] at hc
        cases hc
        have hleaves := leaves_opening item
        rwa [← hopening] at hleaves
      have hstop : ∀ c ∈ ['1', '+', '2', 'j'], isStop c = false := by simp [isStop]
      obtain ⟨hsame, -⟩ := stops_cut (not_isStop_word hword) hstop (stops_tupleRest rest u)
        (stops_cons (c := ')') rfl v) hinside
      have hletter : 'j' ∈ item.chars := by
        rw [hsame]
        decide
      cases hword with
      | null => exact absurd hletter (by decide)
      | bool b => cases b <;> exact absurd hletter (by decide)
      | int n => exact not_mem_toString (by decide) (by decide) n hletter
      | float x =>
          have hnot : ¬ (Binary64.IsNumeric 'j' ∨ 'j' ∈ specialLetters) := by
            unfold Binary64.IsNumeric
            decide
          exact hnot (mem_text_float x 'j' hletter)

theorem cut_tuple (hitems : ∀ item ∈ items, item.Cut) : (tuple items).Cut := by
  intro b hb u v hu hv h
  rcases leaves_of_append_eq h with ⟨items', rfl⟩ | rfl
  · have hempty : ∀ (item : Value) (rest : List Value) (u v : List Char),
        (tuple []).chars ++ u ≠ (tuple (item :: rest)).chars ++ v := by
      intro item rest u v heq
      rw [chars_tuple] at heq
      obtain ⟨c, hc, hstop⟩ := begins_literal item
      obtain ⟨letters, hletters⟩ := List.head?_eq_some_iff.1 hc
      rw [hletters] at heq
      have hsame : ')' = c := (List.cons.inj (List.cons.inj heq).2).1
      rw [← hsame] at hstop
      cases hstop
    cases items with
    | nil =>
        cases items' with
        | nil => exact ⟨rfl, List.append_cancel_left h⟩
        | cons item' rest' => exact absurd h (hempty item' rest' u v)
    | cons item rest =>
        cases items' with
        | nil => exact absurd h.symm (hempty item rest v u)
        | cons item' rest' =>
            rw [chars_tuple, chars_tuple] at h
            simp only [List.cons_append, List.append_assoc] at h
            obtain ⟨hitem, hrest⟩ := List.forall_mem_cons.1 hitems
            obtain ⟨hplain, hplain'⟩ := List.forall_mem_cons.1 (isPlain_of_mem hb)
            obtain ⟨rfl, hbehind⟩ := hitem item' hplain _ _ (stops_tupleRest rest u)
              (stops_tupleRest rest' v) (List.cons.inj h).2
            obtain ⟨rfl, hsame⟩ := tupleRest_cut hrest hplain' hbehind
            exact ⟨rfl, hsame⟩
  · exact absurd h (tuple_ne_complex items u v)

theorem cut_complex : (foreign .complex).Cut := by
  intro b hb u v hu hv h
  rcases leaves_of_append_eq h with ⟨items, rfl⟩ | rfl
  · exact absurd h.symm (tuple_ne_complex items v u)
  · exact ⟨rfl, List.append_cancel_left h⟩

/-- What follows the value of a parameter. -/
def parameterRest (output : Bool) : List Char :=
  if output then ", output=True)".toList else [')']

theorem chars_parameter (value : Value) (output : Bool) :
    (parameter value output).chars =
      "Parameter(".toList ++ (value.chars ++ parameterRest output) := by
  cases output <;> simp [chars, literal, parameterRest, toList_applied]

theorem cut_parameter {value : Value} (hvalue : value.Cut) (output : Bool) :
    (parameter value output).Cut := by
  intro b hb u v hu hv h
  obtain ⟨value', output', rfl⟩ := leaves_of_append_eq h
  rw [chars_parameter, chars_parameter, List.append_assoc, List.append_assoc, List.append_assoc,
    List.append_assoc] at h
  have hstops : ∀ (o : Bool) (w : List Char), Stops (parameterRest o ++ w) := by
    intro o w
    cases o <;> exact stops_cons rfl _
  obtain ⟨rfl, hrest⟩ := hvalue value' hb _ _ (hstops output u) (hstops output' v)
    (List.append_cancel_left h)
  cases output <;> cases output' <;> simp [parameterRest] at hrest
  · exact ⟨rfl, hrest⟩
  · exact ⟨rfl, hrest⟩

end

/-! ## Wrappers -/

/-- What a wrapper shows behind its value. -/
def typedRest : Typed Value → List String
  | .decimal _ precision scale =>
    ["precision=" ++ Digits.text precision, "scale=" ++ Digits.text scale]
  | .varBinary _ size => sizeArgument size
  | .varChar _ size => sizeArgument size
  | .nvarChar _ size => sizeArgument size
  | _ => []

/-- A wrapper shows its name, its value, and what else it has been given. -/
theorem typedLiteral_eq (w : Typed Value) :
    typedLiteral w = applied w.name (literal (unwrap (.typed w)) :: typedRest w) := by
  cases w with
  | untyped value size => rfl
  | integer width value => cases value <;> rfl
  | decimal value precision scale => rfl
  | binary value => cases value <;> rfl
  | varBinary value size => cases value <;> rfl
  | char value => cases value <;> rfl
  | varChar value size => cases value <;> rfl
  | nvarChar value size => cases value <;> rfl
  | date value => cases value <;> rfl

theorem chars_typed (w : Typed Value) :
    (typed w).chars = w.name.toList ++ '(' ::
      ((unwrap (.typed w)).chars ++ (following String.toList (typedRest w) ++ [')'])) := by
  have harguments := toList_intercalate_map id (literal (unwrap (.typed w)) :: typedRest w)
  rw [List.map_id] at harguments
  rw [chars, literal, typedLiteral_eq, toList_applied, harguments]
  simp [joined, chars]

theorem name_cut {w w' : Typed Value} {u v : List Char}
    (h : w.name.toList ++ '(' :: u = w'.name.toList ++ '(' :: v) : w.name = w'.name ∧ u = v := by
  have hname : ∀ w : Typed Value, ∀ c ∈ w.name.toList, (c == '(') = false := by
    intro w
    cases w with
    | integer width value => cases width <;> simp [Typed.name]
    | _ => simp [Typed.name]
  have hopen : ∀ tail : List Char, ∀ c ∈ ('(' :: tail).head?, (c == '(') = true := by
    rintro tail c ⟨⟩
    rfl
  obtain ⟨hsame, hrest⟩ := append_cut (hname w) (hname w') (hopen u) (hopen v) h
  exact ⟨String.toList_inj.1 hsame, (List.cons.inj hrest).2⟩

theorem not_isStop_numeral {name : String} (hname : ∀ c ∈ name.toList, isStop c = false) (n : Nat) :
    ∀ c ∈ (name ++ Digits.text n).toList, isStop c = false := by
  rw [String.toList_append, List.forall_mem_append]
  exact ⟨hname, not_isStop_digits n⟩

theorem not_isStop_typedRest (w : Typed Value) :
    ∀ s ∈ typedRest w, ∀ c ∈ s.toList, isStop c = false := by
  have hsize : ∀ size, ∀ s ∈ sizeArgument size, ∀ c ∈ s.toList, isStop c = false := by
    intro size s hs
    cases size with
    | none => cases hs
    | some n =>
        rw [List.mem_singleton.1 hs]
        exact not_isStop_numeral (by simp [isStop]) n
  cases w with
  | decimal value precision scale =>
      intro s hs
      simp only [typedRest, List.mem_cons, List.not_mem_nil, or_false] at hs
      rcases hs with rfl | rfl
      · exact not_isStop_numeral (by simp [isStop]) precision
      · exact not_isStop_numeral (by simp [isStop]) scale
  | varBinary value size => exact hsize size
  | varChar value size => exact hsize size
  | nvarChar value size => exact hsize size
  | _ => simp [typedRest]

theorem sizeArgument_injective {size size' : Option Nat}
    (h : sizeArgument size = sizeArgument size') : size = size' := by
  cases size with
  | none =>
      cases size' with
      | none => rfl
      | some n => cases h
  | some n =>
      cases size' with
      | none => cases h
      | some m =>
          have hnumeral := (String.append_right_inj _).1 (List.cons.inj h).1
          exact congrArg some (numeral_injective hnumeral)

theorem getD_map_injective {α : Type} {f : α → Value} (hf : ∀ a b, f a = f b → a = b)
    (hnull : ∀ a, f a ≠ .null) {o o' : Option α}
    (h : (o.map f).getD .null = (o'.map f).getD .null) : o = o' := by
  cases o with
  | none =>
      cases o' with
      | none => rfl
      | some a => exact absurd h.symm (hnull a)
  | some a =>
      cases o' with
      | none => exact absurd h (hnull a)
      | some b => exact congrArg some (hf a b h)

/-- Name, value and the rest are all that there is to a plain wrapper. -/
theorem typed_ext {w w' : Typed Value} (hplain : (typed w).isPlain = true)
    (hplain' : (typed w').isPlain = true) (hname : w.name = w'.name)
    (hvalue : unwrap (.typed w) = unwrap (.typed w')) (hrest : typedRest w = typedRest w') :
    w = w' := by
  cases w with
  | untyped value size =>
      cases w' with
      | untyped value' size' =>
          have hsize := of_decide_eq_true (Bool.and_eq_true_iff.1 hplain).2
          have hsize' := of_decide_eq_true (Bool.and_eq_true_iff.1 hplain').2
          rw [hsize, hsize', show value = value' from hvalue]
      | _ => grind [Typed.name, cases IntegerWidth]
  | integer width value =>
      cases w' with
      | integer width' value' =>
          have hwidth : width = width' := by
            cases width <;> cases width' <;> first | rfl | simp [Typed.name] at hname
          rw [hwidth, getD_map_injective (fun _ _ => Value.int.inj) (by simp) hvalue]
      | _ => grind [Typed.name, cases IntegerWidth]
  | decimal value precision scale =>
      cases w' with
      | decimal value' precision' scale' =>
          simp only [typedRest, List.cons.injEq, and_true] at hrest
          have hprecision := numeral_injective ((String.append_right_inj _).1 hrest.1)
          have hscale := numeral_injective ((String.append_right_inj _).1 hrest.2)
          rw [hprecision, hscale, show value = value' from hvalue]
      | _ => grind [Typed.name, cases IntegerWidth]
  | binary value =>
      cases w' with
      | binary value' => rw [getD_map_injective (fun _ _ => Value.bytes.inj) (by simp) hvalue]
      | _ => grind [Typed.name, cases IntegerWidth]
  | varBinary value size =>
      cases w' with
      | varBinary value' size' =>
          rw [getD_map_injective (fun _ _ => Value.bytes.inj) (by simp) hvalue,
            sizeArgument_injective hrest]
      | _ => grind [Typed.name, cases IntegerWidth]
  | char value =>
      cases w' with
      | char value' => rw [getD_map_injective (fun _ _ => Value.text.inj) (by simp) hvalue]
      | _ => grind [Typed.name, cases IntegerWidth]
  | varChar value size =>
      cases w' with
      | varChar value' size' =>
          rw [getD_map_injective (fun _ _ => Value.text.inj) (by simp) hvalue,
            sizeArgument_injective hrest]
      | _ => grind [Typed.name, cases IntegerWidth]
  | nvarChar value size =>
      cases w' with
      | nvarChar value' size' =>
          rw [getD_map_injective (fun _ _ => Value.text.inj) (by simp) hvalue,
            sizeArgument_injective hrest]
      | _ => grind [Typed.name, cases IntegerWidth]
  | date value =>
      cases w' with
      | date value' => rw [getD_map_injective (fun _ _ => Value.date.inj) (by simp) hvalue]
      | _ => grind [Typed.name, cases IntegerWidth]

theorem isPlain_unwrap {w : Typed Value} (h : (typed w).isPlain = true) :
    (unwrap (.typed w)).isPlain = true := by
  cases w with
  | untyped value size => exact (Bool.and_eq_true_iff.1 h).1
  | integer width value => cases value <;> rfl
  | decimal value precision scale => exact (Bool.and_eq_true_iff.1 h).1
  | binary value => cases value <;> rfl
  | varBinary value size => cases value <;> rfl
  | char value => cases value <;> rfl
  | varChar value size => cases value <;> rfl
  | nvarChar value size => cases value <;> rfl
  | date value => cases value <;> rfl

theorem cut_typed {w : Typed Value} (hplain : (typed w).isPlain = true)
    (hvalue : (unwrap (.typed w)).Cut) : (typed w).Cut := by
  intro b hb u v hu hv h
  obtain ⟨w', rfl⟩ := leaves_of_append_eq h
  rw [chars_typed, chars_typed] at h
  simp only [List.append_assoc, List.cons_append, List.nil_append] at h
  have hclose : Closes ')' := by decide
  obtain ⟨hname, hinside⟩ := name_cut h
  obtain ⟨hsame, hbehind⟩ := hvalue _ (isPlain_unwrap hb) _ _ (stops_following hclose)
    (stops_following hclose) hinside
  have hcuts : ∀ s ∈ typedRest w,
      Cuts String.toList (fun t => ∀ c ∈ t.toList, isStop c = false) s := by
    intro s hs t ht u v hu hv heq
    obtain ⟨hlist, htail⟩ := stops_cut (not_isStop_typedRest w s hs) ht hu hv heq
    exact ⟨String.toList_inj.1 hlist, htail⟩
  obtain ⟨hrest, -, htail⟩ :=
    following_cut hcuts (not_isStop_typedRest w') hclose hclose hbehind
  exact ⟨congrArg typed (typed_ext hplain hb hname hsame hrest), htail⟩

theorem cut_optional {α : Type} {f : α → Value} (hf : ∀ a, (f a).Cut) (value : Option α) :
    ((value.map f).getD .null).Cut := by
  cases value with
  | none => exact cut_word .null rfl
  | some a => exact hf a

/-! ## All plain values -/

/-- The literal of a plain value that shows no identity tells where it ends, and the value. -/
theorem cut_literal (a : Value) (hplain : a.isPlain = true) (hid : a.showsIdentity = false) :
    a.Cut := by
  match a with
  | .null => exact cut_word .null hplain
  | .bool b => exact cut_word (.bool b) hplain
  | .int n => exact cut_word (.int n) hplain
  | .float x => exact cut_word (.float x) hplain
  | .decimal d => exact cut_decimal d
  | .text s => exact cut_text s
  | .bytes s => exact cut_bytes s
  | .byteArray s => exact cut_byteArray s
  | .memoryView s => cases hid
  | .dateTime t => exact cut_dateTime t
  | .date d => exact cut_date d
  | .time t => exact cut_time t
  | .uuid w => exact cut_uuid w
  | .list items =>
      exact cut_list fun item hmem =>
        cut_literal item (isPlain_of_mem hplain item hmem) (showsIdentity_of_mem hid item hmem)
  | .tuple items =>
      exact cut_tuple fun item hmem =>
        cut_literal item (isPlain_of_mem hplain item hmem) (showsIdentity_of_mem hid item hmem)
  | .dictionary entries =>
      refine cut_dictionary fun entry hmem => ?_
      obtain ⟨hkey, hvalue⟩ := isPlain_of_mem_entries hplain entry hmem
      obtain ⟨hkeyId, hvalueId⟩ := showsIdentity_of_mem_entries hid entry hmem
      have hsize := List.sizeOf_lt_of_mem hmem
      have hparts : sizeOf entry = 1 + sizeOf entry.1 + sizeOf entry.2 := rfl
      exact ⟨cut_literal entry.1 hkey hkeyId, cut_literal entry.2 hvalue hvalueId⟩
  | .set items =>
      exact cut_set fun item hmem =>
        cut_literal item (isPlain_of_mem hplain item hmem) (showsIdentity_of_mem hid item hmem)
  | .stream items => cases hid
  | .foreign .complex => exact cut_complex
  | .foreign .object => cases hid
  | .foreign .duration => exact cut_duration
  | .foreign .range => exact cut_range
  | .parameter value output => exact cut_parameter (cut_literal value hplain hid) output
  | .typed (.untyped value size) =>
      exact cut_typed hplain (cut_literal value (isPlain_unwrap hplain) hid)
  | .typed (.decimal value precision scale) =>
      have hshows : value.showsIdentity = false := by
        simpa using (Bool.and_eq_true_iff.1 hplain).2
      exact cut_typed hplain (cut_literal value (isPlain_unwrap hplain) hshows)
  | .typed (.integer width value) =>
      exact cut_typed hplain (cut_optional (fun n => cut_word (.int n) rfl) value)
  | .typed (.binary value) => exact cut_typed hplain (cut_optional cut_bytes value)
  | .typed (.varBinary value size) => exact cut_typed hplain (cut_optional cut_bytes value)
  | .typed (.char value) => exact cut_typed hplain (cut_optional cut_text value)
  | .typed (.varChar value size) => exact cut_typed hplain (cut_optional cut_text value)
  | .typed (.nvarChar value size) => exact cut_typed hplain (cut_optional cut_text value)
  | .typed (.date value) => exact cut_typed hplain (cut_optional cut_date value)
termination_by sizeOf a

/-- Different plain values have different literals, unless these show an identity. -/
theorem literal_injective {a b : Value} (ha : a.isPlain = true) (hb : b.isPlain = true)
    (hid : a.showsIdentity = false) (h : a.literal = b.literal) : a = b := by
  have hchars : a.chars ++ [] = b.chars ++ [] := by rw [chars, chars, h]
  exact (cut_literal a ha hid b hb [] [] stops_nil stops_nil hchars).1

/-! ## Sizes that are not shown -/

mutual

/-- A value without the sizes that its literal does not show, which are those given to untyped
wrappers. -/
def unsized : Value → Value
  | .list items => .list (unsizedItems items)
  | .tuple items => .tuple (unsizedItems items)
  | .dictionary entries => .dictionary (unsizedEntries entries)
  | .set items => .set (unsizedItems items)
  | .parameter value output => .parameter (unsized value) output
  | .typed (.untyped value _) => .typed (.untyped (unsized value) (some Typed.noSize))
  | .typed (.decimal value precision scale) => .typed (.decimal (unsized value) precision scale)
  | value => value

/-- Items without the sizes that their literals do not show. -/
def unsizedItems : List Value → List Value
  | [] => []
  | item :: rest => unsized item :: unsizedItems rest

/-- Entries without the sizes that their literals do not show. -/
def unsizedEntries : List (Value × Value) → List (Value × Value)
  | [] => []
  | (key, value) :: rest => (unsized key, unsized value) :: unsizedEntries rest

end

/-- Whether a value is plain but for sizes that are not shown: its floats are of the format, and
its wrapped numbers are no objects that show an identity. -/
def isWellFormed (v : Value) : Bool := v.unsized.isPlain

mutual

/-- A size that is not shown does not change the literal. -/
theorem literal_unsized (v : Value) : v.unsized.literal = v.literal := by
  match v with
  | .list items => rw [unsized, literal, literal, literals_unsized items]
  | .tuple items => rw [unsized, literal, literal, literals_unsized items]
  | .dictionary entries => rw [unsized, literal, literal, entryLiterals_unsized entries]
  | .set items => rw [unsized, literal, literal, literals_unsized items]
  | .parameter value output => rw [unsized, literal, literal, literal_unsized value]
  | .typed (.untyped value size) =>
      rw [unsized, literal, literal, typedLiteral, typedLiteral, literal_unsized value]
  | .typed (.decimal value precision scale) =>
      rw [unsized, literal, literal, typedLiteral, typedLiteral, literal_unsized value]
  | .null | .bool _ | .int _ | .float _ | .decimal _ | .text _ | .bytes _ | .byteArray _
  | .memoryView _ | .dateTime _ | .date _ | .time _ | .uuid _ | .stream _ | .foreign _
  | .typed (.integer ..) | .typed (.binary _) | .typed (.varBinary ..) | .typed (.char _)
  | .typed (.varChar ..) | .typed (.nvarChar ..) | .typed (.date _) => rfl

theorem literals_unsized (items : List Value) : literals (unsizedItems items) = literals items := by
  match items with
  | [] => rfl
  | item :: rest =>
      rw [unsizedItems, literals, literals, literal_unsized item, literals_unsized rest]

theorem entryLiterals_unsized (entries : List (Value × Value)) :
    entryLiterals (unsizedEntries entries) = entryLiterals entries := by
  match entries with
  | [] => rfl
  | (key, value) :: rest =>
      rw [unsizedEntries, entryLiterals, entryLiterals, literal_unsized key, literal_unsized value,
        entryLiterals_unsized rest]

end

mutual

theorem showsIdentity_unsized (v : Value) : v.unsized.showsIdentity = v.showsIdentity := by
  match v with
  | .list items => rw [unsized, showsIdentity, showsIdentity, anyShowsIdentity_unsized items]
  | .tuple items => rw [unsized, showsIdentity, showsIdentity, anyShowsIdentity_unsized items]
  | .dictionary entries =>
      rw [unsized, showsIdentity, showsIdentity, entryShowsIdentity_unsized entries]
  | .set items => rw [unsized, showsIdentity, showsIdentity, anyShowsIdentity_unsized items]
  | .parameter value output =>
      rw [unsized, showsIdentity, showsIdentity, showsIdentity_unsized value]
  | .typed (.untyped value size) =>
      rw [unsized, showsIdentity, showsIdentity, showsIdentity_unsized value]
  | .null | .bool _ | .int _ | .float _ | .decimal _ | .text _ | .bytes _ | .byteArray _
  | .memoryView _ | .dateTime _ | .date _ | .time _ | .uuid _ | .stream _ | .foreign _
  | .typed (.decimal ..) | .typed (.integer ..) | .typed (.binary _) | .typed (.varBinary ..)
  | .typed (.char _) | .typed (.varChar ..) | .typed (.nvarChar ..) | .typed (.date _) => rfl

theorem anyShowsIdentity_unsized (items : List Value) :
    anyShowsIdentity (unsizedItems items) = anyShowsIdentity items := by
  match items with
  | [] => rfl
  | item :: rest =>
      rw [unsizedItems, anyShowsIdentity, anyShowsIdentity, showsIdentity_unsized item,
        anyShowsIdentity_unsized rest]

theorem entryShowsIdentity_unsized (entries : List (Value × Value)) :
    entryShowsIdentity (unsizedEntries entries) = entryShowsIdentity entries := by
  match entries with
  | [] => rfl
  | (key, value) :: rest =>
      rw [unsizedEntries, entryShowsIdentity, entryShowsIdentity, showsIdentity_unsized key,
        showsIdentity_unsized value, entryShowsIdentity_unsized rest]

end

/-- Two values made apart have the same literal exactly if they are the same value, up to sizes
that are not shown, and one that shows no identity. -/
theorem sameLiteral_iff {a b : Value} (ha : a.isWellFormed = true) (hb : b.isWellFormed = true) :
    a.sameLiteral b = true ↔ a.unsized = b.unsized ∧ a.showsIdentity = false := by
  have hsame : a.sameLiteral b = a.unsized.sameLiteral b.unsized := by
    simp only [sameLiteral, literal_unsized, showsIdentity_unsized]
  rw [hsame, ← showsIdentity_unsized a]
  simp only [sameLiteral, Bool.and_eq_true, Bool.not_eq_true', decide_eq_true_eq]
  constructor
  · rintro ⟨⟨hid, -⟩, hliteral⟩
    exact ⟨literal_injective ha hb hid hliteral, hid⟩
  · rintro ⟨heq, hid⟩
    rw [← heq]
    exact ⟨⟨hid, hid⟩, rfl⟩

end Value

end TdsClient
