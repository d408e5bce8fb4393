import TdsClient.Proofs.Binding.Soundness
import TdsClient.Proofs.Statement.Call

/-!
# What declarations tell of values

A statement with parameters is executed by a call that gets the statement and
the declarations of the parameters. The statement depends on the markers
alone. The declarations depend on the names of the arguments and on the types
of their values, and without minimisation most types tell only of what kind a
value is. Two kinds are different: the type of a decimal number has its
places, and the type of a date and time tells whether there is a fraction of
a second, if the server has a type for that.

## Main definitions

* `PlainKind` — kinds of values that are not wrapped.
* `Inference.places`, `Inference.wideType` — what a type tells of a value.
* `Request.HasShape` — the names and kinds of an item's arguments.

## Main results

* `declarations_placesOf_iff` — when items of one shape are declared alike.
* `executeCall_of_hasShape` — the call for an item of a shape.
-/

namespace TdsClient

open Number

/-- Kinds of values that are not wrapped; the byte strings are of one kind. -/
inductive PlainKind
  | bool
  | int
  | float
  | decimal
  | bytes
  | text
  | dateTime
  | date
  | time
  | uuid
deriving DecidableEq

/-- The kind of a value that is not wrapped. -/
def Value.plainKind? : Value → Option PlainKind
  | .bool _ => some .bool
  | .int _ => some .int
  | .float _ => some .float
  | .decimal _ => some .decimal
  | .bytes _ | .byteArray _ | .memoryView _ => some .bytes
  | .text _ => some .text
  | .dateTime _ => some .dateTime
  | .date _ => some .date
  | .time _ => some .time
  | .uuid _ => some .uuid
  | _ => none

/-! ## Types -/

namespace Inference

variable {i : Inference} {kind : PlainKind} {v w : Value}

/-- The places of a decimal number that a type has room for. -/
def decimalPlaces : Decimal → Nat
  | .finite _ coefficient exponent =>
    min (fractionDigits exponent) (maxPrecision - integerDigits coefficient exponent)
  | _ => 0

/-- The places behind the point that a value is declared with on its own account: those of a
decimal number, and those of the second of a date and time with a fraction. -/
def places (i : Inference) : Value → Nat
  | .decimal d => decimalPlaces d
  | .dateTime t =>
    if t.time.microsecond ≠ 0 ∧ i.version.hasTemporal then SqlType.defaultPrecision else 0
  | _ => 0

/-- The type of values of a kind that are declared with some places, without minimisation. -/
def wideType (i : Inference) (places : Nat) : PlainKind → SqlType
  | .bool => .bit
  | .int => .bigInt
  | .float => .float
  | .decimal => .decimal maxPrecision places
  | .bytes => i.longBinary
  | .text => if i.nationalText then i.longNationalText else i.longText
  | .dateTime => if places = 0 then .dateTime else .dateTime2 places
  | .date => .dateTime
  | .time => if i.version.hasTemporal then .time SqlType.defaultPrecision else .dateTime
  | .uuid => .char 36

/-- Whether the types of a kind differ in places: those of decimal numbers do, and those of a date
and time where the server has two. -/
def Varies (i : Inference) (kind : PlainKind) : Prop :=
  kind = .decimal ∨ kind = .dateTime ∧ i.version.hasTemporal = true

theorem scale_of_decimalShape {d : Decimal} {precision scale : Nat}
    (h : (decimalShape d).result = .ok (precision, scale)) : scale = decimalPlaces d := by
  cases d with
  | infinite negative => cases h
  | nan negative signaling payload => cases h
  | finite negative coefficient exponent =>
      show scale = min (fractionDigits exponent) (38 - integerDigits coefficient exponent)
      by_cases hdigits : integerDigits coefficient exponent + fractionDigits exponent ≤ 38
      · rw [decimalShape_of_le negative hdigits] at h
        cases h
        omega
      · by_cases hwhole : 38 < integerDigits coefficient exponent
        · rw [decimalShape_of_wide negative hwhole] at h
          cases h
        · have hscale : integerDigits coefficient exponent +
              (38 - integerDigits coefficient exponent) = 38 := by omega
          rw [decimalShape_of_lt negative hscale (by omega)] at h
          cases h
          omega

theorem type_bindText {s : String} {b : Bound} (h : (i.bindText false s).result = .ok b) :
    b.type = if i.nationalText then i.longNationalText else i.longText := by
  unfold bindText at h
  split at h
  next hnational =>
    cases h
    rw [if_pos hnational]
  next hnational =>
    obtain ⟨kept, -, h⟩ := Reported.result_bind_eq_ok h
    cases h
    rw [if_neg hnational]

theorem type_bindDecimal {d : Decimal} {b : Bound} (h : (bindDecimal false d).result = .ok b) :
    b.type = .decimal maxPrecision (decimalPlaces d) := by
  obtain ⟨⟨precision, scale⟩, hshape, h⟩ := Reported.result_bind_eq_ok h
  have hscale := scale_of_decimalShape hshape
  unfold bindDecimalAs at h
  dsimp only at h
  split at h
  · cases h
    rw [hscale]
    rfl
  · cases h

/-- Without minimisation a value is declared by its kind, and by its places if it has any. -/
theorem type_of_plain (hkind : v.plainKind? = some kind) {b : Bound}
    (h : (i.bind false v).result = .ok b) : b.type = i.wideType (i.places v) kind := by
  cases v with
  | int n =>
      cases hkind
      change (bindInt false n).result = _ at h
      unfold bindInt at h
      split at h
      · cases h
      · cases h
        rfl
  | decimal d =>
      cases hkind
      exact type_bindDecimal h
  | text s =>
      cases hkind
      exact type_bindText h
  | dateTime t =>
      cases hkind
      cases h
      by_cases hfraction : t.time.microsecond ≠ 0 ∧ i.version.hasTemporal
      · have hplaces : i.places (.dateTime t) = SqlType.defaultPrecision := if_pos hfraction
        rw [hplaces]
        exact congrArg BoundAs.type (if_pos hfraction)
      · have hplaces : i.places (.dateTime t) = 0 := if_neg hfraction
        rw [hplaces]
        exact congrArg BoundAs.type (if_neg hfraction)
  | time t =>
      cases hkind
      cases h
      unfold bindTime wideType
      split <;> rfl
  | bool | float | bytes | byteArray | memoryView | date | uuid =>
      cases hkind
      cases h
      rfl
  | _ => cases hkind

/-- Values of a kind whose types do not vary have no places of their own. -/
theorem places_of_fixed (hkind : v.plainKind? = some kind) (hfixed : ¬ i.Varies kind) :
    i.places v = 0 := by
  cases v with
  | decimal d =>
      cases hkind
      exact absurd (.inl rfl) hfixed
  | dateTime t =>
      cases hkind
      exact if_neg fun hfraction => hfixed (.inr ⟨rfl, hfraction.2⟩)
  | _ => rfl

end Inference

/-! ## Declarations -/

/-- A numeral in front of what is no digit can be told from what follows it. -/
theorem numeral_cut {m n : Nat} {c : Char} (hc : c.isDigit = false) {rest rest' : List Char}
    (h : (toString m).toList ++ c :: rest = (toString n).toList ++ c :: rest') :
    m = n ∧ rest = rest' := by
  have hspan : ∀ (n : Nat) (rest : List Char),
      ((toString n).toList ++ c :: rest).takeWhile Char.isDigit = (toString n).toList := by
    intro n rest
    rw [List.takeWhile_append_of_pos fun _ hd => isDigit_of_mem_toString hd,
      List.takeWhile_cons_of_neg (by simp [hc]), List.append_nil]
  have hnumerals : (toString m).toList = (toString n).toList := by
    rw [← hspan m rest, h, hspan n rest']
  obtain rfl : m = n := numeral_injective (String.toList_inj.1 hnumerals)
  exact ⟨rfl, (List.cons.inj (List.append_cancel_left h)).2⟩

namespace Inference

variable {i : Inference} {kind : PlainKind} {v w : Value}

/-- What follows a type in the declarations does not begin like a longer name of a type. -/
def EndsType (rest : List Char) : Prop := rest.head? ≠ some '2'

/-- A date and time has either no places of its own or as many as there can be. -/
theorem places_dateTime (i : Inference) (hv : v.plainKind? = some .dateTime) :
    i.places v = 0 ∨ i.places v = 7 := by
  cases v with
  | dateTime t =>
      by_cases hfraction : t.time.microsecond ≠ 0 ∧ i.version.hasTemporal
      · exact .inr (if_pos hfraction)
      · exact .inl (if_neg hfraction)
  | _ => cases hv

/-- The two types of a date and time can be told apart by what follows the shorter name. -/
theorem dateTime_ne {rest rest' : List Char} (hrest : EndsType rest) :
    (i.wideType 0 .dateTime).declaration.toList ++ rest ≠
      (i.wideType 7 .dateTime).declaration.toList ++ rest' := by
  have hlong : (i.wideType 7 .dateTime).declaration.toList =
      (i.wideType 0 .dateTime).declaration.toList ++ "2(7)".toList := by
    show (SqlType.dateTime2 7).declaration.toList =
      SqlType.dateTime.declaration.toList ++ "2(7)".toList
    decide +kernel
  rw [hlong, List.append_assoc]
  intro h
  have hsame : rest = '2' :: ("(7)".toList ++ rest') := List.append_cancel_left h
  exact hrest (congrArg List.head? hsame)

/-- The declared type of a value of a known kind can be told from what follows it. -/
theorem type_cut (hv : v.plainKind? = some kind) (hw : w.plainKind? = some kind)
    {rest rest' : List Char} (hrest : EndsType rest) (hrest' : EndsType rest')
    (h : (i.wideType (i.places v) kind).declaration.toList ++ rest =
      (i.wideType (i.places w) kind).declaration.toList ++ rest') :
    i.places v = i.places w ∧ rest = rest' := by
  by_cases hdecimal : kind = .decimal
  · subst hdecimal
    have hdigits : ∀ n : Nat, (i.wideType n .decimal).declaration.toList =
        "DECIMAL(38, ".toList ++ ((toString n).toList ++ [')']) := by
      intro n
      show ("DECIMAL(" ++ Number.Digits.text 38 ++ ", " ++ Number.Digits.text n ++ ")").toList = _
      simp only [String.toList_append]
      rfl
    rw [hdigits, hdigits, List.append_assoc, List.append_assoc, List.append_assoc,
      List.append_assoc] at h
    exact numeral_cut (by decide) (List.append_cancel_left h)
  · by_cases hdateTime : kind = .dateTime
    · subst hdateTime
      rcases i.places_dateTime hv with hzero | hseven
      · rcases i.places_dateTime hw with hzero' | hseven'
        · rw [hzero, hzero'] at h ⊢
          exact ⟨rfl, List.append_cancel_left h⟩
        · rw [hzero, hseven'] at h
          exact absurd h (dateTime_ne hrest)
      · rcases i.places_dateTime hw with hzero' | hseven'
        · rw [hseven, hzero'] at h
          exact absurd h.symm (dateTime_ne hrest')
        · rw [hseven, hseven'] at h ⊢
          exact ⟨rfl, List.append_cancel_left h⟩
    · have hfixed : ¬ i.Varies kind := by simp [Varies, hdecimal, hdateTime]
      rw [places_of_fixed hv hfixed, places_of_fixed hw hfixed] at h ⊢
      exact ⟨rfl, List.append_cancel_left h⟩

end Inference

namespace Request

variable {i : Inference} {style : ParamStyle} {shape : List (String × PlainKind)}

/-- An argument of a name and of a kind of plain values. -/
def Fits (s : String × PlainKind) (argument : String × Value) : Prop :=
  argument.1 = s.1 ∧ argument.2.plainKind? = some s.2

/-- An item whose arguments have these names and are plain values of these kinds, in this order. -/
def HasShape (style : ParamStyle) (shape : List (String × PlainKind)) (item : Value) : Prop :=
  ∃ source, ArgumentSource.ofValue style item = .ok source ∧
    List.Forall₂ Fits shape source.arguments

/-- The places of all arguments of an item. -/
def placesOf (i : Inference) (style : ParamStyle) (item : Value) : List Nat :=
  match ArgumentSource.ofValue style item with
  | .ok source => source.arguments.map fun argument => i.places argument.2
  | .error _ => []

/-- The declarations of arguments of a shape that have these places. -/
def declarations (i : Inference) (shape : List (String × PlainKind)) (places : List Nat) : String :=
  ", ".intercalate
    (List.zipWith (fun s n => s.1 ++ " " ++ (i.wideType n s.2).declaration) shape places)

/-- What stands behind the first declaration. -/
def laterDeclarations (i : Inference) (shape : List (String × PlainKind)) (places : List Nat) :
    List Char :=
  if shape = [] then [] else ',' :: ' ' :: (declarations i shape places).toList

theorem endsType_laterDeclarations (shape : List (String × PlainKind)) (places : List Nat) :
    Inference.EndsType (laterDeclarations i shape places) := by
  unfold laterDeclarations Inference.EndsType
  split <;> simp

/-- The first declaration, and the later ones. -/
theorem declarations_cons (s : String × PlainKind) (n : Nat) {places : List Nat}
    (hlength : shape.length = places.length) :
    (declarations i (s :: shape) (n :: places)).toList = s.1.toList ++ ' ' ::
      ((i.wideType n s.2).declaration.toList ++ laterDeclarations i shape places) := by
  cases shape with
  | nil => simp [declarations, laterDeclarations]
  | cons s' shape =>
      cases places with
      | nil => cases hlength
      | cons n' places => simp [declarations, laterDeclarations, String.append_assoc]

/-- Arguments of one shape are declared alike only if they have the same places. -/
theorem places_eq_of_declarations {arguments arguments' : List (String × Value)}
    (h : List.Forall₂ Fits shape arguments) (h' : List.Forall₂ Fits shape arguments')
    (heq : declarations i shape (arguments.map fun a => i.places a.2) =
      declarations i shape (arguments'.map fun a => i.places a.2)) :
    arguments.map (fun a => i.places a.2) = arguments'.map fun a => i.places a.2 := by
  induction h generalizing arguments' with
  | nil =>
      cases h'
      rfl
  | @cons s a shape arguments hfirst hrest ih =>
      cases h' with
      | @cons _ a' _ arguments' hfirst' hrest' =>
          have hlists := congrArg String.toList heq
          rw [List.map_cons, List.map_cons, declarations_cons _ _ (by simp [hrest.length_eq]),
            declarations_cons _ _ (by simp [hrest'.length_eq])] at hlists
          have htypes := (List.cons.inj (List.append_cancel_left hlists)).2
          obtain ⟨hplaces, hlater⟩ := Inference.type_cut hfirst.2 hfirst'.2
            (endsType_laterDeclarations _ _) (endsType_laterDeclarations _ _) htypes
          have hothers : arguments.map (fun a => i.places a.2) =
              arguments'.map fun a => i.places a.2 := by
            by_cases hshape : shape = []
            · subst hshape
              cases hrest
              cases hrest'
              rfl
            · refine ih hrest' (String.toList_inj.1 ?_)
              simpa [laterDeclarations, hshape] using hlater
          rw [List.map_cons, List.map_cons, hplaces, hothers]

/-- Items of a shape without kinds that vary have no places. -/
theorem placesOf_eq_zero {item : Value} (h : HasShape style shape item)
    (hfixed : ∀ s ∈ shape, ¬ i.Varies s.2) : placesOf i style item = shape.map fun _ => 0 := by
  obtain ⟨source, hsource, hfits⟩ := h
  unfold placesOf
  rw [hsource]
  dsimp only
  generalize source.arguments = arguments at hfits
  induction hfits with
  | nil => rfl
  | @cons s a shape arguments hfirst _ ih =>
      obtain ⟨hfixed, hothers⟩ := List.forall_mem_cons.1 hfixed
      rw [List.map_cons, List.map_cons, ih hothers,
        Inference.places_of_fixed hfirst.2 hfixed]

/-- Items of one shape are declared alike exactly if they have the same places. -/
theorem declarations_placesOf_iff {item item' : Value} (h : HasShape style shape item)
    (h' : HasShape style shape item') :
    declarations i shape (placesOf i style item) = declarations i shape (placesOf i style item') ↔
      placesOf i style item = placesOf i style item' := by
  refine ⟨fun heq => ?_, congrArg _⟩
  obtain ⟨source, hsource, hfits⟩ := h
  obtain ⟨source', hsource', hfits'⟩ := h'
  unfold placesOf at heq ⊢
  rw [hsource, hsource'] at heq ⊢
  exact places_eq_of_declarations hfits hfits' heq

/-! ## Calls -/

theorem length_arguments (source : ArgumentSource) : source.arguments.length = source.size := by
  have hvalues := congrArg List.length source.map_snd_arguments
  rw [List.length_map] at hvalues
  rw [hvalues]
  cases source with
  | positions values => rfl
  | names entries => exact List.length_map _

/-- An argument of a shape is declared by its name and its type. -/
theorem declaration_of_fits {s : String × PlainKind} {argument : String × Value}
    (hfits : Fits s argument) {p : BoundParameter} (hname : p.name = argument.1)
    (hbound : IsBound i false argument.2 p) :
    p.declaration = s.1 ++ " " ++ (i.wideType (i.places argument.2) s.2).declaration := by
  obtain ⟨hsame, hkind⟩ := hfits
  have hplain : BoundParameter.unwrapArgument argument.2 = (argument.2, false) := by
    cases hvalue : argument.2 with
    | parameter value output =>
        rw [hvalue] at hkind
        cases hkind
    | _ => rfl
  obtain ⟨b, hb, htype, -, -, houtput⟩ := hbound
  rw [hplain] at hb houtput
  unfold BoundParameter.declaration
  rw [hname, hsame, htype, Inference.type_of_plain hkind hb, houtput]
  simp

/-- Arguments of a shape are declared as it says. -/
theorem declarations_of_fits {arguments : List (String × Value)}
    (hfits : List.Forall₂ Fits shape arguments) {bound : List BoundParameter}
    (hbound : List.Forall₂ (fun a p => p.name = a.1 ∧ IsBound i false a.2 p) arguments bound) :
    ", ".intercalate (bound.map (·.declaration)) =
      declarations i shape (arguments.map fun a => i.places a.2) := by
  refine congrArg (String.intercalate ", ") ?_
  induction hfits generalizing bound with
  | nil =>
      cases hbound
      rfl
  | cons hfirst _ ih =>
      cases hbound with
      | cons hfirst' hrest =>
          rw [List.map_cons, List.map_cons, List.zipWith_cons_cons, ih hrest,
            declaration_of_fits hfirst hfirst'.1 hfirst'.2]

/-- A statement that is given arguments is read as pieces. -/
theorem exists_pieces {minimize : Bool} {sql : String} {item : Value} {source : ArgumentSource}
    {r : Request} (hsource : ArgumentSource.ofValue style item = .ok source)
    (hr : (ofStatement i style minimize sql item).result = .ok r) :
    ∃ pieces, Piece.ofStatement style sql = .ok pieces := by
  cases item with
  | null =>
      unfold ArgumentSource.ofValue at hsource
      split at hsource
      · cases hsource
      · cases hsource
  | _ =>
      obtain ⟨_, -, hr⟩ := Reported.result_bind_eq_ok hr
      obtain ⟨pieces, hpieces, -⟩ := Reported.result_bind_eq_ok hr
      exact ⟨pieces, hpieces⟩

/-- A statement with the names of parameters in place of its markers. -/
def calledStatement (style : ParamStyle) (sql : String) : String :=
  match Piece.ofStatement style sql with
  | .ok pieces =>
    String.ofList (pieces.flatMap (Piece.replaced fun key => key.parameterName.toList))
  | .error _ => sql

/-- The request for an item with a shape is a call. It executes a statement that the item does not
matter for, and declares the arguments by the shape and the places of the item. -/
theorem executeCall_of_hasShape {sql : String} {item : Value} {r : Request}
    (hitem : HasShape style shape item) (hshape : shape ≠ [])
    (hr : (ofStatement i style false sql item).result = .ok r) :
    ∃ bound, r = executeCall i (calledStatement style sql) bound ∧
      ", ".intercalate (bound.map (·.declaration)) =
        declarations i shape (placesOf i style item) := by
  obtain ⟨source, hsource, hfits⟩ := hitem
  have hsize : source.size ≠ 0 := by
    rw [← length_arguments, ← hfits.length_eq]
    exact fun hnone => hshape (List.length_eq_zero_iff.1 hnone)
  obtain ⟨pieces, hpieces⟩ := exists_pieces hsource hr
  rw [ofStatement_eq hsource hpieces, if_neg fun hnone => hsize hnone.1] at hr
  obtain ⟨statement, hstatement, hr⟩ := Reported.result_bind_eq_ok hr
  obtain ⟨bound, hbound, hr⟩ := Reported.result_bind_eq_ok hr
  cases hr
  refine ⟨bound, ?_, ?_⟩
  · unfold calledStatement
    rw [hpieces, statement_of_substitute hstatement]
  · unfold placesOf
    rw [hsource]
    exact declarations_of_fits hfits (forall₂_bindAll hbound)

end Request

end TdsClient
