import Mathlib.Data.List.Induction
import Mathlib.Data.List.Nodup
import TdsClient.Row

/-!
# The views of a row

The values of a row are found by place, by the name of a column, as
attributes, and as a dictionary. The three that go by names differ where a
name is empty or stands more than once: a name and an attribute find the
first column that has it and never an empty one, and the dictionary, which
has the empty name too, keeps the value of the last column. Without such
names all views show the same values in the same order.

## Main definitions

* `Row.IsFirst`, `Row.IsLast` — the first and the last column of a name.
* `Row.gathered` — the dictionary of entries given in order.

## Main results

* `map_fst_gathered`, `mem_gathered_iff` — what a dictionary holds.
* `views_agree` — what each view shows.
-/

namespace TdsClient.Row

/-! ## Dictionaries -/

/-- The dictionary of entries given in order. -/
def gathered (entries : List (String × Value)) : List (String × Value) :=
  entries.foldl (fun d entry => insertNamed entry.1 entry.2 d) []

theorem gathered_append_singleton (entries : List (String × Value)) (entry : String × Value) :
    gathered (entries ++ [entry]) = insertNamed entry.1 entry.2 (gathered entries) := by
  simp [gathered]

/-- A name that is there stays where it is, another one comes last. -/
theorem map_fst_insertNamed (name : String) (value : Value) (d : List (String × Value)) :
    (insertNamed name value d).map Prod.fst =
      if name ∈ d.map Prod.fst then d.map Prod.fst else d.map Prod.fst ++ [name] := by
  induction d with
  | nil => simp [insertNamed]
  | cons entry rest ih =>
      by_cases hname : entry.1 = name
      · simp [insertNamed, hname]
      · have hname' : name ≠ entry.1 := fun h => hname h.symm
        simp only [insertNamed, if_neg hname, List.map_cons, ih, List.mem_cons, hname', false_or]
        split <;> simp

theorem insertNamed_of_not_mem {name : String} (value : Value) {d : List (String × Value)}
    (h : name ∉ d.map Prod.fst) : insertNamed name value d = d ++ [(name, value)] := by
  induction d with
  | nil => rfl
  | cons entry rest ih =>
      rw [List.map_cons, List.mem_cons, not_or] at h
      have hname : entry.1 ≠ name := fun heq => h.1 heq.symm
      simp [insertNamed, hname, ih h.2]

/-- A dictionary has the new value for the name, and for other names what it had. -/
theorem mem_insertNamed_iff {name : String} {value : Value} {d : List (String × Value)}
    (hd : (d.map Prod.fst).Nodup) {name' : String} {value' : Value} :
    (name', value') ∈ insertNamed name value d ↔
      if name' = name then value' = value else (name', value') ∈ d := by
  induction d with
  | nil => by_cases hname : name' = name <;> simp [insertNamed, hname]
  | cons entry rest ih =>
      rw [List.map_cons, List.nodup_cons] at hd
      obtain ⟨habsent, hrest⟩ := hd
      by_cases hfound : entry.1 = name
      · -- the name has no further entry
        have hothers : ∀ v, (name, v) ∉ rest := fun v hmem =>
          habsent (hfound ▸ List.mem_map_of_mem (f := Prod.fst) hmem)
        by_cases hname : name' = name
        · subst hname
          simp [insertNamed, hfound, hothers]
        · have hne : (name', value') ≠ entry := by
            rintro rfl
            exact hname hfound
          simp [insertNamed, hfound, hname, hne]
      · have hstep : insertNamed name value (entry :: rest) =
            entry :: insertNamed name value rest := by
          simp [insertNamed, hfound]
        rw [hstep, List.mem_cons, ih hrest, List.mem_cons]
        by_cases hname : name' = name
        · have hne : (name', value') ≠ entry := by
            rintro rfl
            exact hfound hname
          simp [hname] at hne ⊢
          simp [hne]
        · simp [hname]

/-- A dictionary has each name once, in the order in which they came first. -/
theorem map_fst_gathered (entries : List (String × Value)) :
    (gathered entries).map Prod.fst = (entries.map Prod.fst).eraseDups := by
  induction entries using List.reverseRecOn with
  | nil => rfl
  | append_singleton entries entry ih =>
      rw [gathered_append_singleton, map_fst_insertNamed, ih, List.map_append,
        List.eraseDups_append]
      by_cases hmem : entry.1 ∈ entries.map Prod.fst <;>
        simp [List.eraseDups_cons, List.removeAll, hmem]

theorem nodup_gathered (entries : List (String × Value)) :
    ((gathered entries).map Prod.fst).Nodup := by
  induction entries using List.reverseRecOn with
  | nil => exact List.nodup_nil
  | append_singleton entries entry ih =>
      rw [gathered_append_singleton, map_fst_insertNamed]
      split
      · exact ih
      next hnew =>
        refine List.nodup_append.2 ⟨ih, List.nodup_singleton _, ?_⟩
        rintro name hname other hother rfl
        rw [List.mem_singleton] at hother
        exact hnew (hother ▸ hname)

/-- A dictionary has for a name the value that came last. -/
theorem mem_gathered_iff {entries : List (String × Value)} {name : String} {value : Value} :
    (name, value) ∈ gathered entries ↔
      ∃ i : Nat, entries[i]? = some (name, value) ∧
        ∀ j, i < j → ∀ later : String × Value, entries[j]? = some later → later.1 ≠ name := by
  induction entries using List.reverseRecOn with
  | nil => simp [gathered]
  | append_singleton entries entry ih =>
      rw [gathered_append_singleton, mem_insertNamed_iff (nodup_gathered entries), ih]
      have hlast : (entries ++ [entry])[entries.length]? = some entry := by simp
      have hbefore : ∀ i < entries.length, (entries ++ [entry])[i]? = entries[i]? := fun i hi =>
        List.getElem?_append_left hi
      have hbounds : ∀ {i : Nat} {e}, (entries ++ [entry])[i]? = some e → i ≤ entries.length := by
        intro i e hi
        have hlength := (List.getElem?_eq_some_iff.1 hi).1
        rw [List.length_append, List.length_singleton] at hlength
        omega
      by_cases hname : name = entry.1
      · rw [if_pos hname]
        constructor
        · rintro rfl
          refine ⟨entries.length, by rw [hlast, hname], fun j hj later hlater => ?_⟩
          have hle := hbounds hlater
          omega
        · rintro ⟨i, hi, hlater⟩
          rcases Nat.lt_or_eq_of_le (hbounds hi) with hlt | rfl
          · exact absurd hname.symm (hlater _ hlt entry hlast)
          · rw [hlast] at hi
            exact (congrArg Prod.snd (Option.some.inj hi)).symm
      · rw [if_neg hname]
        constructor
        · rintro ⟨i, hi, hlater⟩
          have hlt := (List.getElem?_eq_some_iff.1 hi).1
          refine ⟨i, (hbefore i hlt).trans hi, fun j hj later hfound => ?_⟩
          rcases Nat.lt_or_eq_of_le (hbounds hfound) with hjlt | rfl
          · exact hlater j hj later ((hbefore j hjlt).symm.trans hfound)
          · rw [hlast] at hfound
            cases hfound
            exact fun h => hname h.symm
        · rintro ⟨i, hi, hlater⟩
          rcases Nat.lt_or_eq_of_le (hbounds hi) with hlt | rfl
          · refine ⟨i, (hbefore i hlt).symm.trans hi, fun j hj later hfound => ?_⟩
            have hjlt := (List.getElem?_eq_some_iff.1 hfound).1
            exact hlater j hj later ((hbefore j hjlt).trans hfound)
          · rw [hlast] at hi
            cases hi
            exact absurd rfl hname

/-- Entries with different names are a dictionary as they are. -/
theorem gathered_of_nodup {entries : List (String × Value)}
    (h : (entries.map Prod.fst).Nodup) : gathered entries = entries := by
  induction entries using List.reverseRecOn with
  | nil => rfl
  | append_singleton entries entry ih =>
      rw [List.map_append, List.nodup_append] at h
      obtain ⟨hentries, -, hnew⟩ := h
      rw [gathered_append_singleton, ih hentries, insertNamed_of_not_mem]
      intro hmem
      exact hnew _ hmem entry.1 (by simp) rfl

/-! ## Places, names and attributes -/

variable {r : Row}

/-- The first column of a name. -/
def IsFirst (r : Row) (name : String) (place : Nat) : Prop :=
  r.names[place]? = some name ∧ ∀ i < place, r.names[i]? ≠ some name

/-- The last column of a name. -/
def IsLast (r : Row) (name : String) (place : Nat) : Prop :=
  r.names[place]? = some name ∧ ∀ i, place < i → r.names[i]? ≠ some name

/-- A place within a sequence stands for itself. -/
theorem resolveIndex?_natCast (length place : Nat) :
    resolveIndex? length place = if place < length then some place else none := by
  have hnonneg : ¬ (place : Int) < 0 := by omega
  unfold resolveIndex?
  rw [if_neg hnonneg]
  by_cases hplace : place < length
  · rw [if_pos hplace, if_pos (by omega), Int.toNat_natCast]
  · rw [if_neg hplace, if_neg (by omega)]

/-- A place in the row gives its value. -/
theorem getAt_eq_ok_iff {place : Nat} {value : Value} :
    r.getAt place = .ok value ↔ r.values[place]? = some value := by
  unfold getAt
  rw [resolveIndex?_natCast]
  by_cases hplace : place < r.size
  · rw [if_pos hplace]
    dsimp only
    cases r.values[place]? with
    | none => simp
    | some found => simp
  · have hnone : r.values[place]? = none := List.getElem?_eq_none (Nat.le_of_not_lt hplace)
    simp [if_neg hplace, hnone]

/-- A name finds nothing if it is empty or no column has it. -/
theorem position?_eq_none_iff {name : String} :
    r.position? name = none ↔ name = "" ∨ name ∉ r.names := by
  rw [position?, ColumnIndex.lookup_ofNames]
  split
  next hempty => simp [hempty]
  next hname => simp [hname, List.idxOf?_eq_none_iff]

theorem position?_of_isFirst {name : String} {place : Nat} (hname : name ≠ "")
    (h : r.IsFirst name place) : r.position? name = some place :=
  (position?_eq_some_iff r name place).2 ⟨hname, h⟩

theorem named_eq_error {name : String} (h : name = "" ∨ name ∉ r.names) :
    r.named name = .error (.noColumn name) := by
  rw [named, position?_eq_none_iff.2 h]

/-- What a name gives as an attribute, by what it gives as a key. -/
def attributeOf (name : String) : Except RowError Value → Except RowError Attribute
  | .ok value => .ok (.value value)
  | .error _ => .error (.noAttribute name)

/-! ## The views of rows with a value in each column -/

section

variable (h : r.names.length = r.values.length)
include h

/-- A column gives the value at its place. -/
theorem exists_valueAt {name : String} {place : Nat} (hname : r.names[place]? = some name) :
    ∃ value, r.valueAt place = .ok value ∧ r.getAt place = .ok value := by
  have hplace : place < r.values.length := h ▸ (List.getElem?_eq_some_iff.1 hname).1
  have hvalue : r.values[place]? = some r.values[place] := List.getElem?_eq_getElem hplace
  exact ⟨_, by rw [valueAt, hvalue], getAt_eq_ok_iff.2 hvalue⟩

/-- A name gives the value of the first column that has it. -/
theorem named_of_isFirst {name : String} {place : Nat} (hname : name ≠ "")
    (hfirst : r.IsFirst name place) : r.named name = r.getAt place := by
  obtain ⟨value, hvalue, hget⟩ := exists_valueAt h hfirst.1
  rw [named, position?_of_isFirst hname hfirst, hget]
  exact hvalue

theorem exists_named_iff {name : String} :
    (∃ value, r.named name = .ok value) ↔ name ≠ "" ∧ name ∈ r.names := by
  constructor
  · rintro ⟨value, hvalue⟩
    by_contra hname
    rw [named_eq_error (by tauto)] at hvalue
    cases hvalue
  · rintro ⟨hname, hmem⟩
    cases hposition : r.position? name with
    | none => exact absurd (position?_eq_none_iff.1 hposition) (by simp [hname, hmem])
    | some place =>
        have hfirst : r.IsFirst name place := ((position?_eq_some_iff r name place).1 hposition).2
        obtain ⟨value, -, hget⟩ := exists_valueAt h hfirst.1
        exact ⟨value, (named_of_isFirst h hname hfirst).trans hget⟩

/-- An attribute is the value of the name, unless all rows have one of that name. -/
theorem attr_eq_attributeOf {name : String} (hmember : r.member? name = none) :
    r.attr name = attributeOf name (r.named name) := by
  rw [attr, named, hmember]
  cases hposition : r.position? name with
  | none => rfl
  | some place =>
      obtain ⟨-, hplace, -⟩ := (position?_eq_some_iff r name place).1 hposition
      obtain ⟨value, hvalue, -⟩ := exists_valueAt h hplace
      simp [hvalue, attributeOf, Except.map]

/-- The dictionary has for each name the value of the last column. -/
theorem mem_entries_iff {name : String} {value : Value} :
    (name, value) ∈ r.entries ↔ ∃ place, r.IsLast name place ∧ r.getAt place = .ok value := by
  have hlater : ∀ {j : Nat} {later : String}, r.names[j]? = some later →
      ∃ v, (r.names.zip r.values)[j]? = some (later, v) := by
    intro j later hj
    obtain ⟨v, -, hv⟩ := exists_valueAt h hj
    exact ⟨v, List.getElem?_zip_eq_some.2 ⟨hj, getAt_eq_ok_iff.1 hv⟩⟩
  show (name, value) ∈ gathered (r.names.zip r.values) ↔ _
  simp only [mem_gathered_iff, List.getElem?_zip_eq_some, IsLast, getAt_eq_ok_iff]
  constructor
  · rintro ⟨i, ⟨hname, hvalue⟩, hlast⟩
    refine ⟨i, ⟨hname, fun j hj hagain => ?_⟩, hvalue⟩
    obtain ⟨v, hv⟩ := hlater hagain
    exact hlast j hj _ (List.getElem?_zip_eq_some.1 hv) rfl
  · rintro ⟨i, ⟨hname, hlast⟩, hvalue⟩
    refine ⟨i, ⟨hname, hvalue⟩, fun j hj later hfound hagain => ?_⟩
    exact hlast j hj (hagain ▸ hfound.1)

/-- The dictionary has the names in the order in which they came first. -/
theorem map_fst_entries : r.entries.map Prod.fst = r.names.eraseDups := by
  show (gathered (r.names.zip r.values)).map Prod.fst = _
  rw [map_fst_gathered, List.map_fst_zip (Nat.le_of_eq h)]

theorem entries_of_nodup (hdistinct : r.names.Nodup) : r.entries = r.names.zip r.values := by
  apply gathered_of_nodup
  rwa [List.map_fst_zip (Nat.le_of_eq h)]

end

/-- However names are repeated or empty, a name that is not empty gives the value of its first
column, and as an attribute the same, unless all rows have an attribute of that name. The
dictionary has all names once, each with the value of its last column. If no name is empty or
repeated, the dictionary has the names and the values in their order, and each of its entries is
found by place, by name, and as an attribute. -/
theorem views_agree (h : r.names.length = r.values.length) :
    (∀ name,
      ((∃ value, r.get (.text name) = .ok value) ↔ name ≠ "" ∧ name ∈ r.names) ∧
      (name = "" ∨ name ∉ r.names → r.get (.text name) = .error (.noColumn name)) ∧
      (∀ i : Nat, name ≠ "" → r.IsFirst name i → r.get (.text name) = r.get (.int i)) ∧
      (r.member? name = none → r.attr name = attributeOf name (r.get (.text name)))) ∧
    ((r.entries.map Prod.fst).Nodup ∧ r.entries.map Prod.fst = r.names.eraseDups ∧
      ∀ name value,
        (name, value) ∈ r.entries ↔ ∃ i : Nat, r.IsLast name i ∧ r.get (.int i) = .ok value) ∧
    (r.names.Nodup → "" ∉ r.names →
      r.entries.map Prod.fst = r.names ∧ r.entries.map Prod.snd = r.values ∧
      ∀ (i : Nat) (name : String) (value : Value), r.entries[i]? = some (name, value) →
        r.get (.int i) = .ok value ∧ r.get (.text name) = .ok value ∧
        (r.member? name = none → r.attr name = .ok (.value value))) := by
  refine ⟨fun name => ⟨exists_named_iff h, named_eq_error, fun i => named_of_isFirst h,
    attr_eq_attributeOf h⟩, ⟨nodup_gathered _, map_fst_entries h, fun _ _ => mem_entries_iff h⟩, ?_⟩
  intro hdistinct hempty
  rw [entries_of_nodup h hdistinct]
  refine ⟨List.map_fst_zip (Nat.le_of_eq h), List.map_snd_zip (Nat.le_of_eq h.symm), ?_⟩
  intro i name value hentry
  obtain ⟨hname, hvalue⟩ := List.getElem?_zip_eq_some.1 hentry
  have hget : r.getAt i = .ok value := getAt_eq_ok_iff.2 hvalue
  have hfirst : r.IsFirst name i := by
    refine ⟨hname, fun j hj hagain => ?_⟩
    have hlength : j < r.names.length := (List.getElem?_eq_some_iff.1 hagain).1
    have hsame : j = i := (List.getElem?_inj hlength hdistinct).1 (hagain.trans hname.symm)
    omega
  have hne : name ≠ "" := by
    rintro rfl
    exact hempty (List.mem_of_getElem? hname)
  have hnamed : r.named name = .ok value := (named_of_isFirst h hne hfirst).trans hget
  refine ⟨hget, hnamed, fun hmember => ?_⟩
  rw [attr_eq_attributeOf h hmember, hnamed]
  rfl

/-- A row in which one name stands twice and another one is empty. -/
def repeating : Row where
  names := ["id", "name", "id", ""]
  values := [.int 1, .text "one", .int 2, .null]

/-- Its first column wins by name, and its last one in the dictionary. -/
theorem views_agree_repeating :
    repeating.names.length = repeating.values.length ∧
      repeating.get (.text "id") = .ok (.int 1) ∧
      repeating.attr "id" = .ok (.value (.int 1)) ∧
      repeating.get (.text "") = .error (.noColumn "") ∧
      repeating.entries.map Prod.fst = ["id", "name", ""] ∧
      ("id", .int 2) ∈ repeating.entries ∧ ("", .null) ∈ repeating.entries := by
  have h : repeating.names.length = repeating.values.length := rfl
  obtain ⟨hnames, ⟨-, hkeys, hentries⟩, -⟩ := views_agree h
  obtain ⟨-, -, hfirst, hattr⟩ := hnames "id"
  have hnamed : repeating.get (.text "id") = .ok (.int 1) := hfirst 0 (by decide) ⟨rfl, nofun⟩
  refine ⟨h, hnamed, ?_, (hnames "").2.1 (.inl rfl), ?_, ?_, ?_⟩
  · rw [hattr rfl, hnamed]
    rfl
  · rw [hkeys]
    decide
  · refine (hentries _ _).2 ⟨2, ⟨rfl, fun i hi hagain => ?_⟩, rfl⟩
    have hlast : i = 3 := by
      have hlength := (List.getElem?_eq_some_iff.1 hagain).1
      have hfour : repeating.names.length = 4 := rfl
      omega
    subst hlast
    exact absurd hagain (by decide)
  · refine (hentries _ _).2 ⟨3, ⟨rfl, fun i hi hagain => ?_⟩, rfl⟩
    have hlength := (List.getElem?_eq_some_iff.1 hagain).1
    have hfour : repeating.names.length = 4 := rfl
    omega

end TdsClient.Row
