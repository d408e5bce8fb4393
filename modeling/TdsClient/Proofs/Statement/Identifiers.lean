import TdsClient.Proofs.Commit

/-!
# Names in statements

Names of databases and columns are put into statements between brackets.
However many brackets a name has, and wherever it has them, what follows the
quoted name is not taken for a part of it, and no part of it for what
follows.

So a statement that switches the database can be read back, and so can the
columns that a statement lists before their rows are sent. Between the names
stand types. A type can have a comma and a closing parenthesis, but only in
parentheses of its own, so it ends at the first that is outside of those.

## Main definitions

* `usedDatabase?` — reads a statement that switches the database.
* `readType` — splits a text where a type ends.
* `listedColumns?` — reads the columns of a statement before rows.

## Main results

* `unquote?_quote_append` — a quoted name is read back.
* `readColumnList?_append` — so is a list of columns with their types.
* `quoted_names_read_back` — names, databases and columns are told exactly.
* `names_told_in_trace` — in particular in all that is sent in a run.
-/

namespace TdsClient

open Text

namespace Text.Bracketed

/-- Reading a quoted name gives the name and leaves what follows, unless that continues it. -/
theorem unquote?_quote_append (name : String) {rest : List Char} (h : rest.head? ≠ some ']') :
    unquote? ((quote name).toList ++ rest) = some (name.toList, rest) := by
  have htext : (quote name).toList ++ rest = '[' :: (escape name.toList ++ ']' :: rest) := by
    rw [quote, String.toList_ofList, List.cons_append, List.append_assoc, List.singleton_append]
  rw [htext]
  exact unescape?_escape_append name.toList rest h

/-- A name takes some of the text. -/
theorem length_of_unescape? {text name rest : List Char} (h : unescape? text = some (name, rest)) :
    rest.length < text.length := by
  induction text using unescape?.induct generalizing name with
  | case1 => cases h
  | case2 text ih =>
    rw [unescape?] at h
    obtain ⟨⟨inner, rest'⟩, hinner, heq⟩ := Option.map_eq_some_iff.1 h
    cases heq
    have hless := ih hinner
    simp only [List.length_cons]
    omega
  | case3 text hsingle =>
    rw [unescape?, if_pos rfl] at h
    · cases h
      exact Nat.lt_succ_self _
    · exact hsingle
  | case4 c text hsingle hc ih =>
    rw [unescape?, if_neg hc] at h
    · obtain ⟨⟨inner, rest'⟩, hinner, heq⟩ := Option.map_eq_some_iff.1 h
      cases heq
      exact Nat.lt_succ_of_lt (ih hinner)
    · exact hsingle

theorem length_of_unquote? {text name rest : List Char} (h : unquote? text = some (name, rest)) :
    rest.length < text.length := by
  unfold unquote? at h
  split at h
  · exact Nat.lt_succ_of_lt (length_of_unescape? h)
  · cases h

end Text.Bracketed

namespace Connection

open Bracketed

/-! ## Reading a database -/

/-- Reads the database that a statement switches to, if it does that and nothing else. -/
def usedDatabase? (sql : String) : Option String :=
  match sql.toList with
  | 'U' :: 'S' :: 'E' :: ' ' :: rest =>
    match unquote? rest with
    | some (name, []) => some (String.ofList name)
    | _ => none
  | _ => none

theorem usedDatabase?_useStatement (name : String) :
    usedDatabase? (useStatement name) = some name := by
  have htext : (useStatement name).toList =
      'U' :: 'S' :: 'E' :: ' ' :: ((quote name).toList ++ []) := by
    rw [useStatement, String.toList_append, List.append_nil]
    rfl
  have hread : unquote? ((quote name).toList ++ []) = some (name.toList, []) :=
    unquote?_quote_append name (by simp)
  simp only [usedDatabase?, htext, hread, String.ofList_toList]

/-! ## Reading a type -/

/-- In how many parentheses a text is after a character. -/
def depthAfter (depth : Nat) (c : Char) : Nat :=
  if c = '(' then depth + 1 else if c = ')' then depth - 1 else depth

/-- Whether a character stands behind a type rather than in it. -/
def endsType (depth : Nat) (c : Char) : Bool := depth = 0 && (c = ',' || c = ')')

/-- Splits a text where a type ends. -/
def readType : (depth : Nat) → List Char → List Char × List Char
  | _, [] => ([], [])
  | depth, c :: rest =>
    if endsType depth c then ([], c :: rest)
    else
      let (type, behind) := readType (depthAfter depth c) rest
      (c :: type, behind)

/-- In how many parentheses a text is after characters that do not end a type. -/
def depthThrough : (depth : Nat) → List Char → Option Nat
  | depth, [] => some depth
  | depth, c :: rest => if endsType depth c then none else depthThrough (depthAfter depth c) rest

/-- A text that is read as one type: it closes its parentheses and does not end before. -/
def IsClosed (type : List Char) : Prop := depthThrough 0 type = some 0

instance (type : List Char) : Decidable (IsClosed type) := inferInstanceAs (Decidable (_ = _))

theorem length_readType (depth : Nat) (text : List Char) :
    (readType depth text).2.length ≤ text.length := by
  induction text generalizing depth with
  | nil => exact Nat.le_refl _
  | cons c rest ih =>
    rw [readType]
    split
    · exact Nat.le_refl _
    · exact Nat.le_succ_of_le (ih _)

/-- A type is read up to what stands behind it. -/
theorem readType_append {type : List Char} {depth : Nat} (h : depthThrough depth type = some 0)
    {c : Char} (hc : endsType 0 c = true) (rest : List Char) :
    readType depth (type ++ c :: rest) = (type, c :: rest) := by
  induction type generalizing depth with
  | nil =>
    obtain rfl : depth = 0 := Option.some.inj h
    rw [List.nil_append, readType, if_pos hc]
  | cons d type ih =>
    rw [depthThrough] at h
    split at h
    · cases h
    next hinside => rw [List.cons_append, readType, if_neg hinside, ih h]

theorem depthThrough_append (depth : Nat) (first second : List Char) :
    depthThrough depth (first ++ second) =
      (depthThrough depth first).bind fun reached => depthThrough reached second := by
  induction first generalizing depth with
  | nil => rfl
  | cons c first ih =>
    rw [List.cons_append, depthThrough, depthThrough]
    split
    · rfl
    · exact ih _

/-- Without parentheses and commas, a text stays in the parentheses it is in. -/
theorem depthThrough_plain {text : List Char} (h : ∀ c ∈ [',', '(', ')'], c ∉ text) (depth : Nat) :
    depthThrough depth text = some depth := by
  induction text with
  | nil => rfl
  | cons c text ih =>
    obtain ⟨hcomma, hopen, hclose⟩ : c ≠ ',' ∧ c ≠ '(' ∧ c ≠ ')' := by
      refine ⟨?_, ?_, ?_⟩ <;> rintro rfl <;> exact h _ (by simp) List.mem_cons_self
    have hends : endsType depth c = false := by simp [endsType, hcomma, hclose]
    have hafter : depthAfter depth c = depth := by simp [depthAfter, hopen, hclose]
    rw [depthThrough, hends, if_neg Bool.false_ne_true, hafter]
    exact ih fun d hd hin => h d hd (List.mem_cons_of_mem _ hin)

theorem depthThrough_toString (n : Int) (depth : Nat) :
    depthThrough depth (toString n).toList = some depth := by
  refine depthThrough_plain (fun c hc => ?_) depth
  obtain rfl | rfl | rfl : c = ',' ∨ c = '(' ∨ c = ')' := by simpa using hc
  all_goals exact not_mem_toString (by decide) (by decide) n

/-! ## The types of columns -/

/-- A name with a text in parentheses is closed if the text closes its own. -/
theorem isClosed_parenthesised {name inside : String} (hname : IsClosed name.toList)
    (hinside : depthThrough 1 inside.toList = some 1) :
    IsClosed (name ++ "(" ++ inside ++ ")").toList := by
  have hopen : depthThrough 0 "(".toList = some 1 := by decide
  have hclose : depthThrough 1 ")".toList = some 0 := by decide
  unfold IsClosed at hname ⊢
  simp only [String.toList_append, depthThrough_append, hname, hopen, hinside, hclose,
    Option.bind_some]

theorem isClosed_sizedDeclaration {name : String} (hname : IsClosed name.toList) (limit : Int)
    (c : Column) : IsClosed (Column.sizedDeclaration name limit c).toList := by
  unfold Column.sizedDeclaration
  split
  · have hmax : name ++ "(MAX)" = name ++ "(" ++ "MAX" ++ ")" := by
      simp only [String.append_assoc]
      rfl
    rw [hmax]
    exact isClosed_parenthesised hname (by decide)
  · exact isClosed_parenthesised hname (depthThrough_toString c.size 1)

theorem isClosed_scaledDeclaration {name : String} (hname : IsClosed name.toList) (c : Column) :
    IsClosed (Column.scaledDeclaration name c).toList :=
  isClosed_parenthesised hname (depthThrough_toString c.scale 1)

theorem isClosed_decimal (precision scale : Int) :
    IsClosed ("DECIMAL(" ++ toString precision ++ ", " ++ toString scale ++ ")").toList := by
  have hstart : depthThrough 0 "DECIMAL(".toList = some 1 := by decide
  have hcomma : depthThrough 1 ", ".toList = some 1 := by decide
  have hclose : depthThrough 1 ")".toList = some 0 := by decide
  unfold IsClosed
  simp only [String.toList_append, depthThrough_append, hstart, depthThrough_toString, hcomma,
    hclose, Option.bind_some]

/-- Every type that a column is declared with is read as one type. -/
theorem isClosed_declaration {c : Column} {declaration : String}
    (h : c.declaration = .ok declaration) : IsClosed declaration.toList := by
  unfold Column.declaration at h
  split at h
  all_goals cases h
  all_goals first
    | decide
    | (with_reducible refine isClosed_sizedDeclaration ?_ _ c); decide
    | (with_reducible refine isClosed_scaledDeclaration ?_ c); decide
    | exact isClosed_decimal c.precision c.scale

/-! ## Reading a list of columns -/

/-- The name of a column and its type. -/
abbrev Definition := String × String

/-- A column and its type, as a statement lists them. -/
def spelled (d : Definition) : String := quote d.1 ++ " " ++ d.2

/-- Reads a column with its type. -/
def readDefinition? (text : List Char) : Option (Definition × List Char) :=
  match unquote? text with
  | some (name, ' ' :: rest) =>
    let (type, behind) := readType 0 rest
    some ((String.ofList name, String.ofList type), behind)
  | _ => none

theorem length_of_readDefinition? {text rest : List Char} {d : Definition}
    (h : readDefinition? text = some (d, rest)) : rest.length < text.length := by
  unfold readDefinition? at h
  split at h
  next name behind hname =>
    cases h
    have hless := length_of_unquote? hname
    have hle := length_readType 0 behind
    simp only [List.length_cons] at hless
    omega
  · cases h

/-- Reads columns up to the parenthesis that closes their list. -/
def readDefinitions? (text : List Char) : Option (List Definition × List Char) :=
  match _hread : readDefinition? text with
  | some (d, ')' :: rest) => some ([d], rest)
  | some (d, ',' :: ' ' :: rest) =>
    (readDefinitions? rest).map fun (others, rest) => (d :: others, rest)
  | _ => none
termination_by text.length
decreasing_by
  have hless := length_of_readDefinition? _hread
  simp only [List.length_cons] at hless
  omega

/-- Reads a list of columns in parentheses. -/
def readColumnList? : List Char → Option (List Definition × List Char)
  | '(' :: ')' :: rest => some ([], rest)
  | '(' :: text => readDefinitions? text
  | _ => none

/-- A column is read up to what stands behind its type. -/
theorem readDefinition?_append {d : Definition} (hd : IsClosed d.2.toList) {c : Char}
    (hc : endsType 0 c = true) (rest : List Char) :
    readDefinition? ((spelled d).toList ++ c :: rest) = some (d, c :: rest) := by
  have htext : (spelled d).toList ++ c :: rest =
      (quote d.1).toList ++ ' ' :: (d.2.toList ++ c :: rest) := by
    rw [spelled, String.toList_append, String.toList_append, List.append_assoc, List.append_assoc]
    rfl
  rw [readDefinition?, htext, unquote?_quote_append d.1 (by simp)]
  simp only [readType_append hd hc, String.ofList_toList]

section

variable {text rest : List Char} {d : Definition}

/-- A column in front of a closing parenthesis is the last. -/
theorem readDefinitions?_of_last (h : readDefinition? text = some (d, ')' :: rest)) :
    readDefinitions? text = some ([d], rest) := by
  rw [readDefinitions?]
  split
  next hfound =>
    cases h.symm.trans hfound
    rfl
  next hfound => cases h.symm.trans hfound
  next hlast _ => exact absurd h (hlast d rest)

/-- Behind a column and a comma, others are read. -/
theorem readDefinitions?_of_next (h : readDefinition? text = some (d, ',' :: ' ' :: rest)) :
    readDefinitions? text =
      (readDefinitions? rest).map fun (others, rest) => (d :: others, rest) := by
  rw [readDefinitions?]
  split
  next hfound => cases h.symm.trans hfound
  next hfound =>
    cases h.symm.trans hfound
    rfl
  next hnext => exact absurd h (hnext d rest)

end

/-- Columns that are separated are read in order, up to the end of their list. -/
theorem readDefinitions?_append {d : Definition} {others : List Definition}
    (h : ∀ e ∈ d :: others, IsClosed e.2.toList) (rest : List Char) :
    readDefinitions? ((", ".intercalate ((d :: others).map spelled)).toList ++ ')' :: rest) =
      some (d :: others, rest) := by
  obtain ⟨hd, hothers⟩ := List.forall_mem_cons.1 h
  rw [String.toList_intercalate]
  induction others generalizing d with
  | nil =>
    have htext : ", ".toList.intercalate (([d].map spelled).map String.toList) =
        (spelled d).toList := List.intercalate_singleton
    rw [htext]
    exact readDefinitions?_of_last (readDefinition?_append hd (by decide) rest)
  | cons e others ih =>
    obtain ⟨he, hlater⟩ := List.forall_mem_cons.1 hothers
    have htext : ", ".toList.intercalate (((d :: e :: others).map spelled).map String.toList) ++
          ')' :: rest =
        (spelled d).toList ++ ',' :: ' ' ::
          (", ".toList.intercalate (((e :: others).map spelled).map String.toList) ++
            ')' :: rest) := by
      simp only [List.map_cons]
      rw [List.intercalate_cons_cons, List.append_assoc, List.append_assoc]
      rfl
    rw [htext, readDefinitions?_of_next (readDefinition?_append hd (by decide) _),
      ih hothers he hlater]
    rfl

/-- What can be read as columns does not begin like an empty list. -/
theorem readColumnList?_of_definitions {text rest : List Char} {definitions : List Definition}
    (h : readDefinitions? text = some (definitions, rest)) :
    readColumnList? ('(' :: text) = some (definitions, rest) := by
  cases text with
  | nil => exact h
  | cons c text =>
    by_cases hc : c = ')'
    · subst hc
      have hnone : readDefinition? (')' :: text) = none := rfl
      rw [readDefinitions?, hnone] at h
      cases h
    · rw [readColumnList?]
      · exact h
      · rintro rest' heq
        cases heq
        exact hc rfl

/-- A list of columns with their types is read back, whatever follows it. -/
theorem readColumnList?_append {definitions : List Definition}
    (h : ∀ d ∈ definitions, IsClosed d.2.toList) (rest : List Char) :
    readColumnList? ('(' :: ((", ".intercalate (definitions.map spelled)).toList ++ ')' :: rest)) =
      some (definitions, rest) := by
  cases definitions with
  | nil => rfl
  | cons d others => exact readColumnList?_of_definitions (readDefinitions?_append h rest)

/-! ## The statement before rows -/

/-- Reads the columns that a statement before rows of a table lists, and gives what follows. -/
def listedColumns? (table sql : String) : Option (List Definition × List Char) :=
  (sql.toList.dropPrefix? ("INSERT BULK " ++ table).toList).bind readColumnList?

/-- What the statement says behind the list of columns. -/
def lockClause (tableLock : Bool) : String := if tableLock then " WITH (TABLOCK)" else ""

/-- The columns of a table and their types. -/
theorem exists_definitions {columns : List Column} {declarations : List String}
    (h : columns.mapM Column.declaration = .ok declarations) :
    ∃ definitions : List Definition,
      definitions.map Prod.fst = columns.map (·.name) ∧ definitions.map Prod.snd = declarations ∧
        definitions.map spelled = List.zipWith columnDefinition columns declarations ∧
          ∀ d ∈ definitions, IsClosed d.2.toList := by
  induction columns generalizing declarations with
  | nil =>
    cases h
    exact ⟨[], rfl, rfl, rfl, nofun⟩
  | cons c columns ih =>
    obtain ⟨declaration, others, hc, hcolumns, rfl⟩ := Request.mapM_cons_eq_ok h
    obtain ⟨definitions, hnames, htypes, hspelled, hclosed⟩ := ih hcolumns
    refine ⟨(c.name, declaration) :: definitions, ?_, ?_, ?_, ?_⟩
    · rw [List.map_cons, List.map_cons, hnames]
    · rw [List.map_cons, htypes]
    · rw [List.map_cons, List.zipWith_cons_cons, hspelled]
      rfl
    · exact List.forall_mem_cons.2 ⟨isClosed_declaration hc, hclosed⟩

/-- From the statement before rows of a table, its columns and their types are read back. -/
theorem listedColumns?_insertStatement (table : String) {columns : List Column}
    {declarations : List String} (h : columns.mapM Column.declaration = .ok declarations)
    (tableLock : Bool) :
    ∃ definitions : List Definition,
      listedColumns? table (insertStatement table columns declarations tableLock) =
        some (definitions, (lockClause tableLock).toList) ∧
      definitions.map Prod.fst = columns.map (·.name) ∧
        definitions.map Prod.snd = declarations := by
  obtain ⟨definitions, hnames, htypes, hspelled, hclosed⟩ := exists_definitions h
  refine ⟨definitions, ?_, hnames, htypes⟩
  have htext : (insertStatement table columns declarations tableLock).toList =
      ("INSERT BULK " ++ table).toList ++ '(' ::
        ((", ".intercalate (definitions.map spelled)).toList ++
          ')' :: (lockClause tableLock).toList) := by
    unfold insertStatement lockClause
    simp only [← hspelled, String.toList_append, List.append_assoc]
    rfl
  rw [listedColumns?, htext, List.dropPrefix?_append_of_beq _ BEq.rfl]
  exact readColumnList?_append hclosed _

/-! ## Names that are told exactly -/

/-- Reading a quoted name gives the name and leaves what follows it, whatever the name, unless a
closing bracket follows. So a statement that switches the database tells which, and a statement
before rows tells the names of all columns with their types, in order, and nothing else. -/
theorem quoted_names_read_back :
    (∀ (name : String) (rest : List Char), rest.head? ≠ some ']' →
      unquote? ((quote name).toList ++ rest) = some (name.toList, rest)) ∧
    (∀ name : String, usedDatabase? (useStatement name) = some name) ∧
    ∀ (table : String) (columns : List Column) (declarations : List String) (tableLock : Bool),
      columns.mapM Column.declaration = .ok declarations →
        ∃ definitions : List Definition,
          listedColumns? table (insertStatement table columns declarations tableLock) =
            some (definitions, (lockClause tableLock).toList) ∧
          definitions.map Prod.fst = columns.map (·.name) ∧
            definitions.map Prod.snd = declarations := by
  refine ⟨?_, usedDatabase?_useStatement, ?_⟩
  · intro name rest hrest
    exact unquote?_quote_append name hrest
  · intro table columns declarations tableLock hdeclared
    exact listedColumns?_insertStatement table hdeclared tableLock

/-- Columns whose names have brackets, parentheses and commas, one of them with a comma in its
type. -/
def awkward : List Column :=
  [{ name := "]", typeCode := .int },
    { name := "a]] INT), [b", typeCode := .decimal, precision := 38 },
    { name := "", typeCode := .varChar }]

/-- The statement before the rows of a table with such columns. -/
def awkwardStatement : String :=
  "INSERT BULK t(([]]] INT, [a]]]] INT), [b] DECIMAL(38, 0), [] VARCHAR(MAX))"

/-- Nothing follows a name that ends in brackets but what does, and the columns are told apart. -/
theorem quoted_names_read_back_awkward :
    unquote? ((quote "master]]").toList ++ "; SELECT".toList) =
        some ("master]]".toList, "; SELECT".toList) ∧
      usedDatabase? "USE [a]]; DROP]" = some "a]; DROP" ∧
      ∃ definitions : List Definition,
        listedColumns? "t(" awkwardStatement = some (definitions, []) ∧
        definitions.map Prod.fst = ["]", "a]] INT), [b", ""] ∧
          definitions.map Prod.snd = ["INT", "DECIMAL(38, 0)", "VARCHAR(MAX)"] := by
  obtain ⟨hquoted, hused, hlisted⟩ := quoted_names_read_back
  have hstatement : useStatement "a]; DROP" = "USE [a]]; DROP]" := by decide +kernel
  have hdeclared : awkward.mapM Column.declaration =
      .ok ["INT", "DECIMAL(38, 0)", "VARCHAR(MAX)"] := rfl
  have hsent : insertStatement "t(" awkward ["INT", "DECIMAL(38, 0)", "VARCHAR(MAX)"] false =
      awkwardStatement := by decide +kernel
  have hrest : (lockClause false).toList = [] := by decide
  refine ⟨hquoted "master]]" _ (by decide), hstatement ▸ hused "a]; DROP", ?_⟩
  rw [← hsent, ← hrest]
  exact hlisted "t(" awkward _ false hdeclared

/-- What is sent in a run by the steps that compose statements from names tells these names: that of
the database which a step switches to, and those of the columns of the table whose rows it
sends. -/
theorem names_told_in_trace {σ : Type} [Session σ] {c : Connection (Recorded σ)}
    {actions : List Action} {step : TracedStep SessionUse}
    (hstep : step ∈ c.trace Recorded.uses actions) {u : SessionUse} (hu : u ∈ step.logged)
    {sql : String} (hcall : u.call = .batch sql) :
    (∀ name, step.action = .useDatabase (.text name) → usedDatabase? sql = some name) ∧
      ∀ table rows batchSize tableLock encode,
        step.action = .bulkInsert table rows batchSize tableLock encode →
          sql = columnsStatement table ∨
            ∃ (columns : List Column) (definitions : List Definition),
              listedColumns? table sql = some (definitions, (lockClause tableLock).toList) ∧
                definitions.map Prod.fst = columns.map (·.name) ∧
                  columns.mapM Column.declaration = .ok (definitions.map Prod.snd) := by
  have hmay : step.action.MayUse (.batch sql) :=
    hcall ▸ (mayUse_of_mem_trace logs_uses hstep).2 u hu
  constructor
  · intro name haction
    rw [haction] at hmay
    rcases hmay.composes_or_statement with hcomposed | ⟨k, x, hcursor, -⟩
    · cases hcomposed
      exact usedDatabase?_useStatement name
    · cases hcursor
  · intro table rows batchSize tableLock encode haction
    rw [haction] at hmay
    rcases hmay.composes_or_statement with hcomposed | ⟨k, x, hcursor, -⟩
    · cases hcomposed with
      | columns => exact .inl rfl
      | @insert _ _ _ _ _ columns declarations hdeclared =>
        obtain ⟨definitions, hlisted, hnames, rfl⟩ :=
          listedColumns?_insertStatement table hdeclared tableLock
        exact .inr ⟨columns, definitions, hlisted, hnames, hdeclared⟩
    · cases hcursor

end Connection

end TdsClient
