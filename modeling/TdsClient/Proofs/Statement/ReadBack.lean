import Mathlib.Data.List.DropRight
import TdsClient.Proofs.Statement.Names

/-!
# Reading declarations back

The call that executes a statement gets the declarations of its parameters as
one text. A comma and a blank separate two declarations, but the same two
characters stand between the precision and the scale of a decimal number. And
nothing but a word at its end tells that a declaration is one of an output.

The text can be read back all the same. An at sign begins a name and occurs
nowhere else, so the text is cut there. A name has no blank, so it ends at the
first one. And no type is spelled with the letter P, so none ends like the word
for outputs. The names are those of positions, or keys of ordinary characters;
with an at sign in a key the text could be cut in the wrong place.

## Main definitions

* `Declared` — what a declaration tells of a parameter.
* `Declared.ofText` — what a text of declarations tells.
* `Request.IsOrdinaryCall` — a call whose declarations can be read back.

## Main results

* `ofText_declarations` — declarations are read back.
* `declared_of_sameText` — so the text of a call tells its parameters.
-/

namespace TdsClient

/-- What a declaration tells of a parameter. -/
structure Declared where
  name : String
  type : String
  output : Bool
deriving DecidableEq

/-- What the declaration of a parameter should tell. -/
def BoundParameter.declared (p : BoundParameter) : Declared :=
  ⟨p.name, p.type.declaration, p.output⟩

/-- A character of an ordinary name: a letter, a digit, or an underscore. -/
def Ordinary (c : Char) : Prop := ParamStyle.named.allows c = true

theorem ordinary_of_all {text : List Char} (h : text.all ParamStyle.named.allows = true) :
    ∀ c ∈ text, Ordinary c :=
  List.all_eq_true.1 h

/-- A name with ordinary characters behind the at sign. -/
def BoundParameter.HasOrdinaryName (p : BoundParameter) : Prop :=
  ∃ word : String, p.name = "@" ++ word ∧ ∀ c ∈ word.toList, Ordinary c

namespace Declared

/-! ## The decoder -/

/-- The end of the declaration of an output. -/
def outputMark : List Char := " OUTPUT".toList

/-- What stands behind each declaration but the last. -/
def separator : List Char := ", ".toList

/-- Reads a declaration without its at sign: a name up to the first blank, a type, and possibly the
mark of an output. -/
def ofBody (body : List Char) : Declared :=
  let rest := (body.dropWhile (· ≠ ' ')).tail
  let output := outputMark.isSuffixOf rest
  { name := "@" ++ String.ofList (body.takeWhile (· ≠ ' '))
    type := String.ofList (if output then rest.rdrop outputMark.length else rest)
    output := output }

/-- Reads a text of declarations. With one more separator behind the last of them, all parts of the
text between at signs end alike. -/
def ofText (text : String) : List Declared :=
  ((text.toList ++ separator).splitOn '@').tail.map fun part =>
    ofBody (part.rdrop separator.length)

/-! ## The letters of a type -/

/-- Without an at sign, and without the letter that only the mark of an output has. -/
def Unmarked (text : List Char) : Prop := ∀ c ∈ text, c ≠ '@' ∧ c ≠ 'P'

theorem unmarked_of_all {text : List Char}
    (h : text.all (fun c => c ≠ '@' ∧ c ≠ 'P') = true) : Unmarked text :=
  fun c hc => of_decide_eq_true (List.all_eq_true.1 h c hc)

theorem unmarked_append {first second : List Char} (hfirst : Unmarked first)
    (hsecond : Unmarked second) : Unmarked (first ++ second) := by
  intro c hc
  rcases List.mem_append.1 hc with hc | hc
  · exact hfirst c hc
  · exact hsecond c hc

theorem unmarked_numeral (n : Nat) : Unmarked (Number.Digits.text n).toList := by
  intro c hc
  have hdigit : c.isDigit = true := isDigit_of_mem_toString hc
  constructor
  · rintro rfl
    exact absurd hdigit (by decide)
  · rintro rfl
    exact absurd hdigit (by decide)

theorem unmarked_sizedName {name : String} (hname : Unmarked name.toList) (size : Nat) :
    Unmarked (SqlType.sizedName name size).toList := by
  unfold SqlType.sizedName
  simp only [String.toList_append]
  apply unmarked_append
  · apply unmarked_append
    · apply unmarked_append hname
      exact unmarked_of_all (by decide)
    · exact unmarked_numeral size
  · exact unmarked_of_all (by decide)

/-- No type is spelled with an at sign or the letter P. -/
theorem unmarked_declaration (type : SqlType) : Unmarked type.declaration.toList := by
  cases type with
  | decimal precision scale =>
      show Unmarked ("DECIMAL(" ++ Number.Digits.text precision ++ ", " ++
        Number.Digits.text scale ++ ")").toList
      simp only [String.toList_append]
      have hopen : Unmarked "DECIMAL(".toList := unmarked_of_all (by decide)
      have hcomma : Unmarked ", ".toList := unmarked_of_all (by decide)
      have hclose : Unmarked ")".toList := unmarked_of_all (by decide)
      exact unmarked_append (unmarked_append (unmarked_append (unmarked_append hopen
        (unmarked_numeral precision)) hcomma) (unmarked_numeral scale)) hclose
  | time size | dateTime2 size | dateTimeOffset size | char size | varChar size | nchar size
  | nvarChar size | binary size | varBinary size =>
      exact unmarked_sizedName (unmarked_of_all (by decide)) size
  | _ => exact unmarked_of_all (by decide)

/-! ## Reading one declaration -/

theorem ne_of_ordinary {c : Char} (hc : Ordinary c) : c ≠ '@' ∧ c ≠ ' ' := by
  constructor
  · rintro rfl
    exact absurd hc (by unfold Ordinary; decide)
  · rintro rfl
    exact absurd hc (by unfold Ordinary; decide)

/-- A type does not end like a declaration of an output. -/
theorem not_outputMark_suffix (type : SqlType) :
    outputMark.isSuffixOf type.declaration.toList = false := by
  rw [Bool.eq_false_iff]
  intro hsuffix
  have hmem : 'P' ∈ type.declaration.toList :=
    (List.isSuffixOf_iff_suffix.1 hsuffix).subset (by decide)
  exact (unmarked_declaration type 'P' hmem).2 rfl

/-- The mark of an output, or none. -/
def outputText (output : Bool) : List Char := if output then outputMark else []

theorem toList_output (output : Bool) :
    (if output then " OUTPUT" else "").toList = outputText output := by
  cases output <;> rfl

theorem atSign_not_mem_outputText (output : Bool) : '@' ∉ outputText output := by
  cases output <;> decide

/-- Behind the name there is nothing but the type and the mark. -/
theorem ofBody_eq {word : List Char} (hword : ∀ c ∈ word, Ordinary c) (type : SqlType)
    (output : Bool) :
    ofBody (word ++ ' ' :: (type.declaration.toList ++ outputText output)) =
      ⟨"@" ++ String.ofList word, type.declaration, output⟩ := by
  have hpass : ∀ c ∈ word, decide (c ≠ ' ') = true := fun c hc =>
    decide_eq_true (ne_of_ordinary (hword c hc)).2
  have hname : (word ++ ' ' :: (type.declaration.toList ++ outputText output)).takeWhile
      (· ≠ ' ') = word := by
    rw [List.takeWhile_append_of_pos hpass]
    simp
  have hrest : ((word ++ ' ' :: (type.declaration.toList ++ outputText output)).dropWhile
      (· ≠ ' ')).tail = type.declaration.toList ++ outputText output := by
    rw [List.dropWhile_append_of_pos hpass]
    simp
  unfold ofBody
  simp only [hname, hrest]
  cases output with
  | false => simp [outputText, not_outputMark_suffix]
  | true =>
      have hmark : outputMark.isSuffixOf (type.declaration.toList ++ outputMark) = true :=
        List.isSuffixOf_iff_suffix.2 (List.suffix_append _ _)
      simp [outputText, hmark, List.rdrop_append_length]

/-- A declaration is an at sign and a body without one, and the body is read back. -/
theorem exists_body {p : BoundParameter} (hp : p.HasOrdinaryName) :
    ∃ body, p.declaration.toList = '@' :: body ∧ '@' ∉ body ∧ ofBody body = p.declared := by
  obtain ⟨word, hname, hword⟩ := hp
  refine ⟨word.toList ++ ' ' :: (p.type.declaration.toList ++ outputText p.output), ?_, ?_, ?_⟩
  · unfold BoundParameter.declaration
    simp only [hname, String.toList_append, toList_output]
    simp
  · intro hmem
    rcases List.mem_append.1 hmem with hmem | hmem
    · exact (ne_of_ordinary (hword _ hmem)).1 rfl
    · rcases List.mem_cons.1 hmem with hmem | hmem
      · cases hmem
      · rcases List.mem_append.1 hmem with hmem | hmem
        · exact (unmarked_declaration p.type _ hmem).1 rfl
        · exact atSign_not_mem_outputText p.output hmem
  · rw [ofBody_eq hword, String.ofList_toList, ← hname]
    rfl

/-! ## Reading all declarations -/

/-- Parts that each begin with a mark are separated by it from each other and from what stands
before them. -/
theorem append_flatMap_cons {α : Type} (mark : α) (first : List α) (parts : List (List α)) :
    first ++ parts.flatMap (mark :: ·) = [mark].intercalate (first :: parts) := by
  induction parts generalizing first with
  | nil => simp
  | cons part rest ih =>
      rw [List.intercalate_cons_cons, ← ih part]
      simp

/-- Items that are separated, with one more separator at the end, are each followed by one. -/
theorem intercalate_append {α : Type} {separator : List α} {items : List (List α)}
    (hitems : items ≠ []) :
    separator.intercalate items ++ separator = items.flatMap (· ++ separator) := by
  induction items with
  | nil => exact absurd rfl hitems
  | cons item rest ih =>
      cases rest with
      | nil => simp
      | cons next rest =>
          rw [List.intercalate_cons_cons, List.append_assoc, ih (List.cons_ne_nil _ _)]
          simp

/-- The bodies of declarations. -/
theorem exists_bodies {ps : List BoundParameter} (hps : ∀ p ∈ ps, p.HasOrdinaryName) :
    ∃ bodies : List (List Char),
      ps.map (fun p => p.declaration.toList) = bodies.map ('@' :: ·) ∧
      (∀ body ∈ bodies, '@' ∉ body) ∧ bodies.map ofBody = ps.map (·.declared) := by
  induction ps with
  | nil => exact ⟨[], rfl, nofun, rfl⟩
  | cons p rest ih =>
      obtain ⟨bodies, htexts, hmarks, hread⟩ := ih fun q hq => hps q (List.mem_cons_of_mem _ hq)
      obtain ⟨body, htext, hmark, hbody⟩ := exists_body (hps p List.mem_cons_self)
      refine ⟨body :: bodies, ?_, ?_, ?_⟩
      · rw [List.map_cons, List.map_cons, htext, htexts]
      · intro other hother
        rcases List.mem_cons.1 hother with rfl | hother
        · exact hmark
        · exact hmarks other hother
      · rw [List.map_cons, List.map_cons, hbody, hread]

/-- Declarations of parameters with ordinary names are read back. -/
theorem ofText_declarations {ps : List BoundParameter} (hps : ∀ p ∈ ps, p.HasOrdinaryName) :
    ofText (", ".intercalate (ps.map (·.declaration))) = ps.map (·.declared) := by
  obtain ⟨bodies, htexts, hmarks, hread⟩ := exists_bodies hps
  by_cases hnone : ps = []
  · subst hnone
    decide
  · -- each part of the text is a body with a separator behind it
    have hparts : (", ".intercalate (ps.map (·.declaration))).toList ++ separator =
        (bodies.map (· ++ separator)).flatMap ('@' :: ·) := by
      have hsome : ps.map (fun p => p.declaration.toList) ≠ [] := by simpa using hnone
      have htoList : ps.map (String.toList ∘ (·.declaration)) = bodies.map ('@' :: ·) := htexts
      rw [String.toList_intercalate, List.map_map]
      show separator.intercalate (ps.map fun p => p.declaration.toList) ++ separator = _
      rw [intercalate_append hsome, htexts]
      simp [List.flatMap_map]
    have hcut : ∀ part ∈ bodies.map (· ++ separator), '@' ∉ part := by
      intro part hpart
      obtain ⟨body, hbody, rfl⟩ := List.mem_map.1 hpart
      have hmark := hmarks body hbody
      simp [separator, hmark]
    have hsplit : ((bodies.map (· ++ separator)).flatMap ('@' :: ·)).splitOn '@' =
        [] :: bodies.map (· ++ separator) := by
      rw [← List.nil_append (List.flatMap _ _), append_flatMap_cons]
      apply List.splitOn_intercalate
      · exact List.forall_mem_cons.2 ⟨List.not_mem_nil, hcut⟩
      · exact List.cons_ne_nil _ _
    unfold ofText
    rw [hparts, hsplit, List.tail_cons, List.map_map, ← hread]
    apply List.map_congr_left
    intro body _
    exact congrArg ofBody List.rdrop_append_length

end Declared

/-! ## The text of a call -/

namespace Request

/-- The text of declarations that a call sends as one of its own parameters. -/
def declarationsText? (r : Request) : Option String :=
  ((r.parameters.take r.firstParameter).find? fun p => p.name = "@params").bind fun p =>
    match p.value with
    | .text s => some s
    | _ => none

/-- The call of a statement sends the declarations. -/
theorem declarationsText_executeCall (i : Inference) (statement : String)
    (bound : List BoundParameter) :
    (executeCall i statement bound).declarationsText? =
      some (", ".intercalate (bound.map (·.declaration))) := by
  have hname : ∀ name text, (BoundParameter.nationalText i name text).name = name :=
    fun _ _ => rfl
  simp [declarationsText?, executeCall, hname, value_nationalText]

/-- If arguments have names, these are keys of ordinary characters. -/
def HasOrdinaryKeys (style : ParamStyle) (parameters : Value) : Prop :=
  style.isNamed = true → ∀ entries, parameters.entries? = some entries →
    ∀ e ∈ entries, ∀ c ∈ e.1.display.toList, Ordinary c

/-- A call for a statement with arguments of a style, the names of which are ordinary. -/
def IsOrdinaryCall (style : ParamStyle) (r : Request) : Prop :=
  ∃ i minimize sql parameters, HasOrdinaryKeys style parameters ∧
    (ofStatement i style minimize sql parameters).result = .ok r ∧ r.isCall = true

/-- The name of a position consists of ordinary characters. -/
theorem ordinary_positionName (n : Nat) {c : Char} (hc : c ∈ ("param" ++ toString n).toList) :
    Ordinary c := by
  rw [String.toList_append] at hc
  rcases List.mem_append.1 hc with hc | hc
  · exact ordinary_of_all (by decide) c hc
  · have hdigit := isDigit_of_mem_toString hc
    simp [Ordinary, ParamStyle.allows, Char.isAlphanum, hdigit]

/-- So the names of all arguments are ordinary. -/
theorem ordinary_argumentNames {style : ParamStyle} {parameters : Value} {source : ArgumentSource}
    (hkeys : HasOrdinaryKeys style parameters)
    (hsource : ArgumentSource.ofValue style parameters = .ok source) :
    ∀ name ∈ source.argumentNames,
      ∃ word : String, name = "@" ++ word ∧ ∀ c ∈ word.toList, Ordinary c := by
  intro name hname
  cases source with
  | positions values =>
      rw [ArgumentSource.argumentNames_positions] at hname
      obtain ⟨n, -, rfl⟩ := List.mem_map.1 hname
      exact ⟨"param" ++ toString n, rfl, fun _ => ordinary_positionName n⟩
  | names entries =>
      rw [ArgumentSource.argumentNames_names] at hname
      obtain ⟨key, hkey, rfl⟩ := List.mem_map.1 hname
      obtain ⟨e, he, rfl⟩ := List.mem_map.1 hkey
      obtain ⟨hnamed, hentries⟩ : style.isNamed = true ∧ parameters.entries? = some entries := by
        unfold ArgumentSource.ofValue at hsource
        split at hsource
        next hnamed =>
          refine ⟨hnamed, ?_⟩
          split at hsource
          next hentries =>
            cases hsource
            exact hentries
          next => cases hsource
        next =>
          split at hsource
          · cases hsource
          · cases hsource
      exact ⟨e.1.display, rfl, hkeys hnamed entries hentries e he⟩

/-- The text that a call sends tells its parameters: the declarations in it are those of the
arguments, one for each and in their order. -/
theorem ofText_of_isOrdinaryCall {style : ParamStyle} {r : Request} (h : IsOrdinaryCall style r) :
    ∃ text, r.declarationsText? = some text ∧
      Declared.ofText text = r.userParameters.map (·.declared) := by
  obtain ⟨i, minimize, sql, parameters, hkeys, hr, hcall⟩ := h
  obtain ⟨source, -, hsource, -⟩ := exists_source_of_isCall hr hcall
  obtain ⟨statement, bound, rfl, hbound⟩ := eq_executeCall hsource hr hcall
  have hnames : bound.map (·.name) = source.argumentNames := map_name_bindAll hbound
  refine ⟨_, declarationsText_executeCall i statement bound, ?_⟩
  apply Declared.ofText_declarations
  intro p hp
  apply ordinary_argumentNames hkeys hsource
  rw [← hnames]
  exact List.mem_map_of_mem hp

/-- Two calls with one style of arguments that send the same text of declarations have the same
number of parameters, and these have, one by one, the same name and declared type, and are both
outputs or neither is. What they are can be read from the text. -/
theorem declared_of_sameText {style : ParamStyle} {r r' : Request} (h : IsOrdinaryCall style r)
    (h' : IsOrdinaryCall style r') :
    (∃ text, r.declarationsText? = some text ∧
      Declared.ofText text = r.userParameters.map (·.declared)) ∧
    (r.declarationsText? = r'.declarationsText? →
      r.userParameters.length = r'.userParameters.length ∧
      ∀ (place : Nat) (p p' : BoundParameter), r.userParameters[place]? = some p →
        r'.userParameters[place]? = some p' →
        p.name = p'.name ∧ p.type.declaration = p'.type.declaration ∧ p.output = p'.output) := by
  obtain ⟨text, htext, hread⟩ := ofText_of_isOrdinaryCall h
  obtain ⟨text', htext', hread'⟩ := ofText_of_isOrdinaryCall h'
  refine ⟨⟨text, htext, hread⟩, ?_⟩
  intro hsame
  obtain rfl : text = text' := Option.some.inj (htext.symm.trans (hsame.trans htext'))
  have hdeclared : r.userParameters.map (·.declared) = r'.userParameters.map (·.declared) :=
    hread.symm.trans hread'
  constructor
  · simpa using congrArg List.length hdeclared
  · intro place p p' hp hp'
    have hplace := congrArg (fun declared => declared[place]?) hdeclared
    simp only [List.getElem?_map, hp, hp', Option.map_some, Option.some.injEq] at hplace
    have hboth : p.name = p'.name ∧ p.type.declaration = p'.type.declaration ∧
        p.output = p'.output := by
      simpa [BoundParameter.declared] using hplace
    exact hboth

/-- The request for a statement with a price and the parameter for a count that is returned. -/
def countPrices (sql : String) (cents : Nat) : Reported Request :=
  ofStatement { version := .v74 } .named false sql (.dictionary
    [(.text "price", .decimal (.finite false cents (-2))),
      (.text "n", .parameter (.int 0) true)])

/-- Two statements with the same declarations, one of which is of an output and one of a type with
the separator in it. -/
theorem declared_of_sameText_prices :
    ∃ r r', (countPrices "SET :n = (SELECT COUNT(*) FROM t WHERE a < :price)" 125).result = .ok r ∧
      (countPrices "SET :n = (SELECT COUNT(*) FROM u WHERE b > :price)" 9975).result = .ok r' ∧
      r.declarationsText? = some "@price DECIMAL(38, 2), @n BIGINT OUTPUT" ∧
      r'.declarationsText? = some "@price DECIMAL(38, 2), @n BIGINT OUTPUT" ∧
      r.userParameters.length = r'.userParameters.length ∧
      ∀ (place : Nat) (p p' : BoundParameter), r.userParameters[place]? = some p →
        r'.userParameters[place]? = some p' →
        p.name = p'.name ∧ p.type.declaration = p'.type.declaration ∧ p.output = p'.output := by
  have hcall : ∀ sql cents, (sql, cents) ∈ [
      ("SET :n = (SELECT COUNT(*) FROM t WHERE a < :price)", 125),
      ("SET :n = (SELECT COUNT(*) FROM u WHERE b > :price)", 9975)] →
      ∃ r, (countPrices sql cents).result = .ok r ∧ IsOrdinaryCall .named r ∧
        r.declarationsText? = some "@price DECIMAL(38, 2), @n BIGINT OUTPUT" := by
    intro sql cents hmem
    have hmade : ((countPrices sql cents).result.toOption.map fun r =>
        (r.isCall, r.declarationsText?)) =
          some (true, some "@price DECIMAL(38, 2), @n BIGINT OUTPUT") := by
      rcases List.mem_pair.1 hmem with h | h
      · cases h
        decide +kernel
      · cases h
        decide +kernel
    cases hr : (countPrices sql cents).result with
    | error e =>
        rw [hr] at hmade
        cases hmade
    | ok r =>
        rw [hr] at hmade
        obtain ⟨hcalls, htext⟩ := Prod.mk.inj (Option.some.inj hmade)
        refine ⟨r, rfl, ⟨{ version := .v74 }, false, sql, _, ?_, hr, hcalls⟩, htext⟩
        intro _ entries hentries e he
        cases hentries
        rcases List.mem_pair.1 he with rfl | rfl
        · have hletters : ∀ c ∈ "price".toList, Ordinary c := ordinary_of_all (by decide)
          exact hletters
        · have hletters : ∀ c ∈ "n".toList, Ordinary c := ordinary_of_all (by decide)
          exact hletters
  obtain ⟨r, hr, hordinary, htext⟩ := hcall _ _ List.mem_cons_self
  obtain ⟨r', hr', hordinary', htext'⟩ := hcall _ _ (List.mem_cons_of_mem _ List.mem_cons_self)
  obtain ⟨hlength, hplaces⟩ :=
    (declared_of_sameText hordinary hordinary').2 (htext.trans htext'.symm)
  exact ⟨r, r', hr, hr', htext, htext', hlength, hplaces⟩

/-- With an at sign in a key, one parameter is declared like two. -/
example :
    [[(Value.text "a BIT, @b", Value.bool true)],
      [(.text "a", .bool true), (.text "b", .bool true)]].map (fun entries =>
        (ofStatement { version := .v74 } .named false "SELECT 1"
          (.dictionary entries)).result.toOption.bind (·.declarationsText?)) =
      [some "@a BIT, @b BIT", some "@a BIT, @b BIT"] := by
  decide +kernel

end Request

end TdsClient
