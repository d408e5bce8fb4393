import Mathlib.Data.List.Nodup
import TdsClient.Proofs.Statement.Call

/-!
# The names of the parameters

The call that executes a statement has two parameters of its own, and one
for each argument. The arguments of a sequence get numbered names, which
are no names of the call. The arguments of a mapping bring their names, and
those are not compared with the names of the call. So a mapping with one of
those names for a key makes a call with two parameters of one name, and a
reference in the statement that may mean either of them. There is no other
way to get two parameters of one name.

## Main definitions

* `ArgumentSource.HasTextKeys` — arguments with names that tell them apart.
* `ArgumentSource.TakesOwnName` — arguments with a name of the call.

## Main results

* `names_of_isCall` — the names of a call's parameters.
* `names_nodup_iff` — when they are pairwise distinct.
-/

namespace TdsClient.Request

namespace ArgumentSource

/-! ## The names of arguments -/

/-- Of a sequence nothing is asked. The keys of a mapping are texts, and no two are the same. -/
def HasTextKeys : ArgumentSource → Prop
  | .positions _ => True
  | .names entries => (∀ e ∈ entries, ∃ s, e.1 = .text s) ∧ (entries.map Prod.fst).Nodup

/-- A mapping has a key that is, after an at sign, a name of the call's own parameters. -/
def TakesOwnName : ArgumentSource → Prop
  | .positions _ => False
  | .names entries => hasName entries "stmt" = true ∨ hasName entries "params" = true

/-- The names of the arguments, in order. -/
def argumentNames (source : ArgumentSource) : List String := source.arguments.map Prod.fst

/-- Different positions have different names. -/
theorem positionName_injective : Function.Injective positionName :=
  fun _ _ h => numeral_injective ((String.append_right_inj _).1 h)

theorem argumentNames_positions (values : List Value) :
    (positions values).argumentNames = (List.range values.length).map positionName := by
  refine List.map_fst_zip (Nat.le_of_eq ?_)
  rw [List.length_map, List.length_range]

theorem argumentNames_names (entries : List (Value × Value)) :
    (names entries).argumentNames = (entries.map Prod.fst).map fun key => "@" ++ key.display := by
  show (entries.map _).map Prod.fst = _
  rw [List.map_map, List.map_map]
  rfl

/-- No two arguments have the same name. -/
theorem nodup_argumentNames {source : ArgumentSource} (hkeys : source.HasTextKeys) :
    source.argumentNames.Nodup := by
  cases source with
  | positions values =>
      rw [argumentNames_positions]
      exact List.nodup_range.map positionName_injective
  | names entries =>
      rw [argumentNames_names]
      refine List.Nodup.map_on (fun key hkey other hother heq => ?_) hkeys.2
      obtain ⟨e, he, rfl⟩ := List.mem_map.1 hkey
      obtain ⟨e', he', rfl⟩ := List.mem_map.1 hother
      obtain ⟨s, hs⟩ := hkeys.1 e he
      obtain ⟨t, ht⟩ := hkeys.1 e' he'
      rw [hs, ht] at heq ⊢
      exact congrArg Value.text ((String.append_right_inj _).1 heq)

/-- The name of a position is none of the names of the call's own parameters. -/
theorem positionName_ne (n : Nat) : positionName n ≠ "@stmt" ∧ positionName n ≠ "@params" := by
  constructor
  · intro h
    have hsecond := congrArg (fun name : String => name.toList[1]?) h
    simp [positionName] at hsecond
  · intro h
    have hnumeral : toString n = "s" := (String.append_right_inj "@param").1 h
    have hdigit : 's'.isDigit = true := isDigit_of_mem_toString (n := n) (by simp [hnumeral])
    cases hdigit

/-- A mapping gives a name to an argument if it has the key. -/
theorem mem_argumentNames_iff {entries : List (Value × Value)}
    (hkeys : ∀ e ∈ entries, ∃ s, e.1 = .text s) (s : String) :
    "@" ++ s ∈ (names entries).argumentNames ↔ hasName entries s = true := by
  rw [argumentNames_names, hasName_iff]
  constructor
  · intro hmem
    obtain ⟨key, hkey, hname⟩ := List.mem_map.1 hmem
    obtain ⟨e, he, rfl⟩ := List.mem_map.1 hkey
    obtain ⟨t, ht⟩ := hkeys e he
    obtain ⟨place, hplace⟩ := List.mem_iff_getElem?.1 he
    rw [ht] at hname
    obtain rfl : t = s := (String.append_right_inj "@").1 hname
    exact ⟨place, e.2, hplace.trans (congrArg (fun key => some (key, e.2)) ht)⟩
  · rintro ⟨place, value, hplace⟩
    exact List.mem_map.2 ⟨.text s, List.mem_map_of_mem (List.mem_of_getElem? hplace), rfl⟩

/-- Which arguments have a name of the call's own parameters. -/
theorem takesOwnName_iff {source : ArgumentSource} (hkeys : source.HasTextKeys) :
    source.TakesOwnName ↔ "@stmt" ∈ source.argumentNames ∨ "@params" ∈ source.argumentNames := by
  cases source with
  | positions values =>
      rw [argumentNames_positions]
      refine ⟨False.elim, ?_⟩
      rintro (hmem | hmem)
      · obtain ⟨n, _, hn⟩ := List.mem_map.1 hmem
        exact (positionName_ne n).1 hn
      · obtain ⟨n, _, hn⟩ := List.mem_map.1 hmem
        exact (positionName_ne n).2 hn
  | names entries =>
      exact or_congr (mem_argumentNames_iff hkeys.1 "stmt").symm
        (mem_argumentNames_iff hkeys.1 "params").symm

end ArgumentSource

/-! ## The names of a call -/

/-- A call for a statement is that of its arguments. -/
theorem eq_executeCall {i : Inference} {style : ParamStyle} {minimize : Bool} {sql : String}
    {parameters : Value} {source : ArgumentSource} {r : Request}
    (hsource : ArgumentSource.ofValue style parameters = .ok source)
    (hr : (ofStatement i style minimize sql parameters).result = .ok r)
    (hcall : r.isCall = true) :
    ∃ statement bound, r = executeCall i statement bound ∧
      (bindAll i minimize source.arguments).result = .ok bound := by
  obtain ⟨_, pieces, _, hpieces⟩ := exists_source_of_isCall hr hcall
  rw [ofStatement_eq hsource hpieces] at hr
  split at hr
  · cases hr
    cases hcall
  · obtain ⟨statement, _, hr⟩ := Reported.result_bind_eq_ok hr
    obtain ⟨bound, hbound, hr⟩ := Reported.result_bind_eq_ok hr
    cases hr
    exact ⟨statement, bound, rfl, hbound⟩

/-- Arguments are bound under their names. -/
theorem map_name_bindAll {i : Inference} {minimize : Bool} {arguments : List (String × Value)}
    {bound : List BoundParameter} (h : (bindAll i minimize arguments).result = .ok bound) :
    bound.map (·.name) = arguments.map Prod.fst := by
  have hnamed := forall₂_bindAll h
  clear h
  induction hnamed with
  | nil => rfl
  | cons hfirst _ ih => exact congrArg₂ List.cons hfirst.1 ih

/-- The names of a call are its own two, and then those of the arguments. -/
theorem names_of_isCall {i : Inference} {style : ParamStyle} {minimize : Bool} {sql : String}
    {parameters : Value} {source : ArgumentSource} {r : Request}
    (hsource : ArgumentSource.ofValue style parameters = .ok source)
    (hr : (ofStatement i style minimize sql parameters).result = .ok r)
    (hcall : r.isCall = true) :
    r.userParameters.map (·.name) = source.argumentNames ∧
      r.parameters.map (·.name) = "@stmt" :: "@params" :: source.argumentNames := by
  obtain ⟨statement, bound, rfl, hbound⟩ := eq_executeCall hsource hr hcall
  have hnames : bound.map (·.name) = source.argumentNames := map_name_bindAll hbound
  exact ⟨hnames, congrArg (["@stmt", "@params"] ++ ·) hnames⟩

/-- A key names one of the call's own parameters if it is the name of one. -/
theorem parameterName_eq_iff (key : MarkerKey) :
    (key.parameterName = "@stmt" ↔ key = .name "stmt") ∧
      (key.parameterName = "@params" ↔ key = .name "params") := by
  cases key with
  | position n =>
      have hother := ArgumentSource.positionName_ne n
      exact ⟨⟨fun h => absurd h hother.1, nofun⟩, ⟨fun h => absurd h hother.2, nofun⟩⟩
  | name s =>
      have hsame : ∀ t, MarkerKey.parameterName (.name s) = "@" ++ t ↔
          MarkerKey.name s = .name t := fun t =>
        (String.append_right_inj "@").trans ⟨congrArg MarkerKey.name, MarkerKey.name.inj⟩
      exact ⟨hsame "stmt", hsame "params"⟩

/-- Among distinct names each one has its place. -/
theorem existsUnique_place {names : List String} (hnodup : names.Nodup) {name : String}
    (hmem : name ∈ names) : ∃! place : Nat, names[place]? = some name := by
  obtain ⟨place, hplace⟩ := List.mem_iff_getElem?.1 hmem
  refine ⟨place, hplace, fun other hother => ?_⟩
  have hin : other < names.length := (List.getElem?_eq_some_iff.1 hother).1
  exact (List.getElem?_inj hin hnodup).1 (hother.trans hplace.symm)

/-- If two more names stand before them, one that is already there keeps a single place unless it is
one of the two. -/
theorem existsUnique_place_cons {first second : String} {names : List String}
    (hnodup : names.Nodup) {name : String} (hmem : name ∈ names) :
    (∃! place : Nat, (first :: second :: names)[place]? = some name) ↔
      name ≠ first ∧ name ≠ second := by
  obtain ⟨place, hplace, honly⟩ := existsUnique_place hnodup hmem
  constructor
  · intro hunique
    -- it has its old place already, two further on
    have hlater : (first :: second :: names)[place + 2]? = some name := hplace
    constructor
    · rintro rfl
      have hearlier : (name :: second :: names)[0]? = some name := rfl
      exact absurd (hunique.unique hearlier hlater) (by omega)
    · rintro rfl
      have hearlier : (first :: name :: names)[1]? = some name := rfl
      exact absurd (hunique.unique hearlier hlater) (by omega)
  · rintro ⟨hfirst, hsecond⟩
    refine ⟨place + 2, hplace, fun other hother => ?_⟩
    match other with
    | 0 => exact absurd (Option.some.inj hother).symm hfirst
    | 1 => exact absurd (Option.some.inj hother).symm hsecond
    | other + 2 => rw [honly other hother]

/-- For every statement, and all arguments whose keys, if they have any, are different texts: if the
request is a call, the names of the user's parameters are pairwise distinct. With the call's own
parameters they are so exactly if no key is a name of those, which can only be in a mapping. A
marker refers to one of the user's parameters, and to no other parameter unless it is such a
name. -/
theorem names_nodup_iff (i : Inference) (minimize : Bool) (sql : String) (parameters : Value)
    {style : ParamStyle} (hstyle : style = .numeric ∨ style = .named) {source : ArgumentSource}
    (hsource : ArgumentSource.ofValue style parameters = .ok source) (hkeys : source.HasTextKeys)
    {r : Request} (hr : (ofStatement i style minimize sql parameters).result = .ok r)
    (hcall : r.isCall = true) :
    (r.userParameters.map (·.name)).Nodup ∧
    ((r.parameters.map (·.name)).Nodup ↔ ¬ source.TakesOwnName) ∧
    ∃ markers, Marker.ofStatement style sql = .ok markers ∧ ∀ m ∈ markers,
      (∃! place : Nat, (r.userParameters.map (·.name))[place]? = some m.key.parameterName) ∧
      ((∃! place : Nat, (r.parameters.map (·.name))[place]? = some m.key.parameterName) ↔
        m.key ≠ .name "stmt" ∧ m.key ≠ .name "params") := by
  obtain ⟨huser, hall⟩ := names_of_isCall hsource hr hcall
  have hnodup := ArgumentSource.nodup_argumentNames hkeys
  rw [huser, hall]
  refine ⟨hnodup, ?_, ?_⟩
  · rw [ArgumentSource.takesOwnName_iff hkeys, List.nodup_cons, List.nodup_cons, List.mem_cons]
    have hown : "@stmt" ≠ "@params" := by decide
    tauto
  · obtain ⟨_, markers, _, hmarkers, hexecutes⟩ := executes_of_isCall hstyle hr hcall
    refine ⟨markers, hmarkers, fun m hm => ?_⟩
    have hmem : m.key.parameterName ∈ source.argumentNames := by
      obtain ⟨⟨place, hplace⟩, hnamed⟩ := hexecutes.named m hm
      obtain ⟨p, hp, hname⟩ := hnamed place hplace
      rw [← huser, ← hname]
      exact List.mem_map_of_mem (List.mem_of_getElem? hp)
    obtain ⟨hstmt, hparams⟩ := parameterName_eq_iff m.key
    refine ⟨existsUnique_place hnodup hmem, ?_⟩
    rw [existsUnique_place_cons hnodup hmem, Ne, Ne, hstmt, hparams]

/-- The request for a statement with the two arguments of a mapping. -/
def byName (first second : String) : Reported Request :=
  ofStatement { version := .v74 } .named true ("SELECT :" ++ first ++ ", :" ++ second)
    (.dictionary [(.text first, .int 1), (.text second, .int 2)])

/-- With the names of two columns all four parameters have names of their own. -/
theorem names_nodup_byName :
    ∃ r, (byName "id" "name").result = .ok r ∧ r.isCall = true ∧
      r.parameters.length = 4 ∧ (r.parameters.map (·.name)).Nodup := by
  have hcall : ((byName "id" "name").result.toOption.map
      fun r => (r.isCall, r.parameters.length)) = some (true, 4) := by decide +kernel
  cases hr : (byName "id" "name").result with
  | error e =>
      rw [hr] at hcall
      cases hcall
  | ok r =>
      rw [hr] at hcall
      obtain ⟨hprocedure, hlength⟩ := Prod.mk.inj (Option.some.inj hcall)
      have hkeys : (ArgumentSource.names
          [(.text "id", .int 1), (.text "name", .int 2)]).HasTextKeys := by
        refine ⟨?_, by simp⟩
        rintro e he
        simp only [List.mem_cons, List.not_mem_nil, or_false] at he
        rcases he with rfl | rfl
        · exact ⟨_, rfl⟩
        · exact ⟨_, rfl⟩
      have hnodup := (names_nodup_iff _ _ _ _ (.inr rfl) rfl hkeys hr hprocedure).2.1
      refine ⟨r, rfl, hprocedure, hlength, hnodup.2 ?_⟩
      rintro (hstmt | hparams)
      · cases hstmt
      · cases hparams

/-- With a key that is a name of the call, two parameters have that name. -/
theorem names_clash_byName :
    ∃ r, (byName "stmt" "name").result = .ok r ∧ r.isCall = true ∧
      ¬ (r.parameters.map (·.name)).Nodup := by
  have hcall : ((byName "stmt" "name").result.toOption.map
      fun r => (r.isCall, r.parameters.map (·.name))) =
        some (true, ["@stmt", "@params", "@stmt", "@name"]) := by decide +kernel
  cases hr : (byName "stmt" "name").result with
  | error e =>
      rw [hr] at hcall
      cases hcall
  | ok r =>
      rw [hr] at hcall
      obtain ⟨hprocedure, hnames⟩ := Prod.mk.inj (Option.some.inj hcall)
      refine ⟨r, rfl, hprocedure, ?_⟩
      rw [hnames]
      decide

end TdsClient.Request
