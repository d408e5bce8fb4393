import TdsClient.Proofs.Binding.Reported
import TdsClient.Proofs.Statement.Splice
import TdsClient.Statement.Request

/-!
# The call that executes a statement

A statement with parameters is sent as a call that gets the statement with
names in place of its markers, the declarations of its parameters, and the
parameters. The three are made independently of each other. They agree: each
argument becomes one parameter, the declarations are those of the parameters,
and each marker is replaced by the name of the parameter that its argument
became.

If an argument is missing, the first marker without one is reported, and no
argument is bound.

## Main definitions

* `ArgumentSource.Selects` — the argument that a marker refers to.
* `Request.Executes` — what the call for a statement is.

## Main results

* `executes_ofStatement` — the request for a statement, if it is a call.
-/

namespace TdsClient

/-! ## Markers and arguments -/

/-- A number is written in digits. -/
theorem isDigit_of_mem_toString {n : Nat} {c : Char} (hc : c ∈ (toString n).toList) :
    c.isDigit = true := by
  have hmem : c ∈ Nat.toDigits 10 n := by
    rw [← Nat.toList_repr]
    exact hc
  exact Nat.isDigit_of_mem_toDigits (by decide) (by decide) hmem

/-- Different numbers are written differently. -/
theorem numeral_injective {m n : Nat} (h : toString m = toString n) : m = n := by
  have hdigits : Nat.toDigits 10 m = Nat.toDigits 10 n := by
    rw [← Nat.toList_repr, ← Nat.toList_repr]
    exact congrArg String.toList h
  calc
    m = Nat.ofDigitChars 10 (Nat.toDigits 10 m) 0 := Nat.ofDigitChars_ten_toDigits.symm
    _ = Nat.ofDigitChars 10 (Nat.toDigits 10 n) 0 := by rw [hdigits]
    _ = n := Nat.ofDigitChars_ten_toDigits

namespace MarkerKey

/-- The name of the parameter that a key refers to. -/
def parameterName : MarkerKey → String
  | .position n => "@param" ++ toString n
  | .name s => "@" ++ s

/-- The failure if there is no argument for a key. -/
def missing : MarkerKey → Error
  | .position n => .misuse (.noParameterAt n)
  | .name s => .misuse (.noParameterNamed s)

theorem ne_of_isAlphanum {c : Char} (hc : c.isAlphanum = true) : c ≠ ':' ∧ c ≠ '\'' := by
  constructor
  · rintro rfl
    exact absurd hc (by decide)
  · rintro rfl
    exact absurd hc (by decide)

/-- A number is written without a colon and without a quote. -/
theorem inert_toString (n : Nat) : Inert (toString n).toList := by
  intro c hc
  refine ne_of_isAlphanum ?_
  unfold Char.isAlphanum
  rw [isDigit_of_mem_toString hc, Bool.or_true]

/-- A number is a position. -/
theorem exists_position {word : List Char} {key : MarkerKey} (h : ofWord .numeric word = .ok key) :
    ∃ n, key = .position n := by
  unfold ofWord at h
  by_cases hlong : maxDigits < word.length
  · rw [if_pos hlong] at h
    cases h
  · rw [if_neg hlong] at h
    cases h
    exact ⟨_, rfl⟩

/-- The name that stands in for a marker has no colon and no quote. -/
theorem inert_parameterName {style : ParamStyle} {word : List Char} {key : MarkerKey}
    (hallowed : ∀ c ∈ word, style.allows c = true) (hkey : ofWord style word = .ok key) :
    Inert key.parameterName.toList := by
  have hname : (∀ c ∈ word, (c.isAlphanum || c = '_') = true) →
      Inert (parameterName (.name (String.ofList word))).toList := by
    intro hword
    unfold parameterName
    rw [String.toList_append]
    refine inert_append (by decide) ?_
    rw [String.toList_ofList]
    intro c hc
    rcases Bool.or_eq_true_iff.1 (hword c hc) with hc | hc
    · exact ne_of_isAlphanum hc
    · rw [of_decide_eq_true hc]
      decide
  cases style with
  | numeric =>
      obtain ⟨n, rfl⟩ := exists_position hkey
      unfold parameterName
      rw [String.toList_append]
      exact inert_append (by decide) (inert_toString n)
  | named =>
      cases hkey
      exact hname hallowed
  | other given =>
      cases hkey
      exact hname hallowed

end MarkerKey

namespace Request

namespace ArgumentSource

/-- The arguments, in order. -/
def values : ArgumentSource → List Value
  | .positions values => values
  | .names entries => entries.map Prod.snd

/-- A key refers to the argument at a place: the position is that place, or the name is the key of
the entry there. -/
def Selects : ArgumentSource → MarkerKey → Nat → Prop
  | .positions values, .position n, place => place = n ∧ n < values.length
  | .names entries, .name s, place => ∃ value, entries[place]? = some (Value.text s, value)
  | _, _, _ => False

/-- Arguments of the kind that the markers of a style refer to. -/
def Suits : ArgumentSource → ParamStyle → Prop
  | .positions _, .numeric => True
  | .names _, .named => True
  | _, _ => False

/-- What a value offers suits the style. -/
theorem suits_of_ofValue {style : ParamStyle} (hstyle : style = .numeric ∨ style = .named)
    {value : Value} {source : ArgumentSource} (h : ofValue style value = .ok source) :
    source.Suits style := by
  unfold ofValue at h
  rcases hstyle with rfl | rfl
  · rw [if_neg (by decide)] at h
    split at h
    · cases h
      trivial
    · cases h
  · rw [if_pos (by decide)] at h
    split at h
    · cases h
      trivial
    · cases h

theorem hasName_iff (entries : List (Value × Value)) (name : String) :
    hasName entries name = true ↔
      ∃ (place : Nat) (value : Value), entries[place]? = some (.text name, value) := by
  unfold hasName
  rw [List.any_eq_true]
  constructor
  · rintro ⟨⟨key, value⟩, hmem, hkey⟩
    obtain ⟨place, hplace⟩ := List.mem_iff_getElem?.1 hmem
    cases key with
    | text s =>
        have hs : s = name := of_decide_eq_true hkey
        exact ⟨place, value, hs ▸ hplace⟩
    | _ => cases hkey
  · rintro ⟨place, value, hplace⟩
    exact ⟨(.text name, value), List.mem_of_getElem? hplace, decide_eq_true rfl⟩

/-- The name that stands in for a marker, or the failure for want of an argument. -/
theorem nameOf_eq {source : ArgumentSource} {style : ParamStyle} (hsuits : source.Suits style)
    {word : List Char} {key : MarkerKey} (hkey : MarkerKey.ofWord style word = .ok key) :
    ((∃ place, source.Selects key place) ∧ source.nameOf key = .ok key.parameterName) ∨
      ((¬ ∃ place, source.Selects key place) ∧ source.nameOf key = .error key.missing) := by
  cases source with
  | positions values =>
      cases style with
      | numeric =>
          obtain ⟨n, rfl⟩ := MarkerKey.exists_position hkey
          by_cases hn : n < values.length
          · exact .inl ⟨⟨n, rfl, hn⟩, if_pos hn⟩
          · exact .inr ⟨fun ⟨_, _, hplace⟩ => hn hplace, if_neg hn⟩
      | named => exact hsuits.elim
      | other given => exact hsuits.elim
  | names entries =>
      cases style with
      | numeric => exact hsuits.elim
      | named =>
          cases hkey
          by_cases hname : hasName entries (String.ofList word) = true
          · exact .inl ⟨(hasName_iff entries _).1 hname, if_pos hname⟩
          · exact .inr ⟨fun hselects => hname ((hasName_iff entries _).2 hselects), if_neg hname⟩
      | other given => exact hsuits.elim

end ArgumentSource

/-! ## The statement -/

/-- Without a piece that is a marker there are no markers. -/
theorem ofPieces_eq_nil {place : Nat} {pieces : List Piece} (h : pieces.any isMarker = false) :
    Marker.ofPieces place pieces = [] := by
  induction pieces generalizing place with
  | nil => rfl
  | cons piece rest ih =>
      rw [List.any_cons] at h
      obtain ⟨hpiece, hrest⟩ := Bool.or_eq_false_iff.1 h
      cases piece with
      | plain c => exact ih hrest
      | marker word key => cases hpiece

/-- A piece is replaced by the name for its key, or is the first that cannot be. -/
theorem pieceText_eq {source : ArgumentSource} {style : ParamStyle} (hsuits : source.Suits style)
    {word : List Char} {key : MarkerKey} (hkey : MarkerKey.ofWord style word = .ok key) :
    ((∃ place, source.Selects key place) ∧
        pieceText source (.marker word key) = .ok key.parameterName.toList) ∨
      ((¬ ∃ place, source.Selects key place) ∧
        pieceText source (.marker word key) = .error key.missing) := by
  rcases ArgumentSource.nameOf_eq hsuits hkey with ⟨hselects, hname⟩ | ⟨hselects, hname⟩
  · refine .inl ⟨hselects, ?_⟩
    show (source.nameOf key).map String.toList = _
    rw [hname]
    rfl
  · refine .inr ⟨hselects, ?_⟩
    show (source.nameOf key).map String.toList = _
    rw [hname]
    rfl

/-- Items are treated in order, and the first one first. -/
theorem mapM_cons_eq_ok {ε α β : Type} {f : α → Except ε β} {a : α} {rest : List α}
    {results : List β} (h : (a :: rest).mapM f = .ok results) :
    ∃ b others, f a = .ok b ∧ rest.mapM f = .ok others ∧ results = b :: others := by
  rw [List.mapM_cons] at h
  cases hfirst : f a with
  | error e =>
      rw [hfirst] at h
      cases h
  | ok b =>
      cases hrest : rest.mapM f with
      | error e =>
          rw [hfirst, hrest] at h
          cases h
      | ok others =>
          rw [hfirst, hrest] at h
          cases h
          exact ⟨b, others, rfl, rfl, rfl⟩

/-- The name that stands in for a marker does not depend on the arguments. -/
theorem name_of_nameOf {source : ArgumentSource} {key : MarkerKey} {name : String}
    (h : source.nameOf key = .ok name) : name = key.parameterName := by
  unfold ArgumentSource.nameOf at h
  split at h
  · split at h
    · cases h
      rfl
    · cases h
  · split at h
    · split at h
      · cases h
        rfl
      · cases h
    · split at h
      · cases h
        rfl
      · cases h

/-- Nor does what stands in for a piece. -/
theorem text_of_pieceText {source : ArgumentSource} {piece : Piece} {text : List Char}
    (h : pieceText source piece = .ok text) :
    text = piece.replaced fun key => key.parameterName.toList := by
  cases piece with
  | plain c =>
      cases h
      rfl
  | marker word key =>
      change (source.nameOf key).map String.toList = .ok text at h
      cases hname : source.nameOf key with
      | error e =>
          rw [hname] at h
          cases h
      | ok name =>
          rw [hname] at h
          cases h
          rw [name_of_nameOf hname]
          rfl

/-- If all pieces can be replaced, each marker is replaced by its name. -/
theorem texts_of_mapM_pieceText {source : ArgumentSource} {pieces : List Piece}
    {texts : List (List Char)} (h : pieces.mapM (pieceText source) = .ok texts) :
    texts = pieces.map (Piece.replaced fun key => key.parameterName.toList) := by
  induction pieces generalizing texts with
  | nil =>
      cases h
      rfl
  | cons piece rest ih =>
      obtain ⟨text, others, htext, hothers, rfl⟩ := mapM_cons_eq_ok h
      rw [text_of_pieceText htext, ih hothers]
      rfl

/-- So the resulting statement is the same whatever the arguments are. -/
theorem statement_of_substitute {source : ArgumentSource} {pieces : List Piece} {statement : String}
    (h : substitute source pieces = .ok statement) :
    statement = String.ofList
      (pieces.flatMap (Piece.replaced fun key => key.parameterName.toList)) := by
  unfold substitute at h
  cases hall : pieces.mapM (pieceText source) with
  | error e =>
      rw [hall] at h
      cases h
  | ok texts =>
      rw [hall] at h
      cases h
      rw [texts_of_mapM_pieceText hall, List.flatMap_def]

/-- If all pieces can be replaced, then each marker has an argument. -/
theorem selects_of_mapM_pieceText {source : ArgumentSource} {style : ParamStyle}
    (hsuits : source.Suits style) {inLiteral : Bool} {pieces : List Piece}
    (hlegal : Piece.Legal style inLiteral pieces) (place : Nat) {texts : List (List Char)}
    (h : pieces.mapM (pieceText source) = .ok texts) :
    ∀ m ∈ Marker.ofPieces place pieces, ∃ place, source.Selects m.key place := by
  induction hlegal generalizing place texts with
  | nil => exact nofun
  | @plain _ c rest hcolon hrest ih =>
      obtain ⟨_, others, _, hothers, _⟩ := mapM_cons_eq_ok h
      exact ih (place + 1) hothers
  | @marker word key rest hword hallowed hkey hrest ih =>
      obtain ⟨text, others, htext, hothers, _⟩ := mapM_cons_eq_ok h
      intro m hm
      rcases List.mem_cons.1 hm with rfl | hm
      · rcases pieceText_eq hsuits hkey with ⟨hfirst, _⟩ | ⟨_, hmissing⟩
        · exact hfirst
        · rw [hmissing] at htext
          cases htext
      · exact ih (place + 1 + word.length) hothers m hm

/-- The first marker without an argument is reported. -/
theorem mapM_pieceText_missing {source : ArgumentSource} {style : ParamStyle}
    (hsuits : source.Suits style) {inLiteral : Bool} {pieces : List Piece}
    (hlegal : Piece.Legal style inLiteral pieces) (place : Nat) {before after : List Marker}
    {m : Marker} (hmarkers : Marker.ofPieces place pieces = before ++ m :: after)
    (hbefore : ∀ a ∈ before, ∃ place, source.Selects a.key place)
    (hmissing : ¬ ∃ place, source.Selects m.key place) :
    pieces.mapM (pieceText source) = .error m.key.missing := by
  induction hlegal generalizing place before with
  | nil =>
      have hlength := congrArg List.length hmarkers
      rw [List.length_append, List.length_cons] at hlength
      exact absurd hlength (Nat.succ_ne_zero _).symm
  | plain hcolon hrest ih =>
      rw [List.mapM_cons, ih (place + 1) hmarkers hbefore]
      rfl
  | marker hword hallowed hkey hrest ih =>
      rw [List.mapM_cons]
      cases before with
      | nil =>
          obtain ⟨rfl, _⟩ := List.cons.inj hmarkers
          rcases pieceText_eq hsuits hkey with ⟨hselects, _⟩ | ⟨_, htext⟩
          · exact absurd hselects hmissing
          · rw [htext]
            rfl
      | cons first others =>
          obtain ⟨rfl, hothers⟩ := List.cons.inj hmarkers
          have hfirst := hbefore _ List.mem_cons_self
          have hfailed := ih _ hothers fun a ha => hbefore a (List.mem_cons_of_mem _ ha)
          rcases pieceText_eq hsuits hkey with ⟨_, htext⟩ | ⟨hnone, _⟩
          · rw [htext, hfailed]
            rfl
          · exact absurd hfirst hnone

/-- A statement with an argument for every marker has their names in place of the markers. -/
theorem substitute_eq_ok {source : ArgumentSource} {style : ParamStyle}
    (hsuits : source.Suits style) {sql : String} {pieces : List Piece}
    (hpieces : Piece.ofStatement style sql = .ok pieces) {statement : String}
    (h : substitute source pieces = .ok statement) :
    (∀ m ∈ Marker.ofPieces 0 pieces, ∃ place, source.Selects m.key place) ∧
      statement = String.ofList
        (pieces.flatMap (Piece.replaced fun key => key.parameterName.toList)) := by
  refine ⟨?_, statement_of_substitute h⟩
  unfold substitute at h
  cases htexts : pieces.mapM (pieceText source) with
  | error e =>
      rw [htexts] at h
      cases h
  | ok texts =>
      exact selects_of_mapM_pieceText hsuits (Piece.legal_of_scan _ _ _ _ hpieces) 0 htexts

/-! ## The parameters -/

/-- A parameter that an argument was bound to: what is sent is what the type inference makes of the
value, out of a wrapping parameter if there is one, whose output flag it keeps. -/
def IsBound (i : Inference) (minimize : Bool) (argument : Value) (p : BoundParameter) : Prop :=
  ∃ b, (i.bind minimize (BoundParameter.unwrapArgument argument).1).result = .ok b ∧
    p.type = b.type ∧ p.value = b.value ∧ p.size = b.size ∧
    p.output = (BoundParameter.unwrapArgument argument).2

/-- An argument is bound to a parameter of its name. -/
theorem isBound_of_bind {i : Inference} {minimize : Bool} {name : String} {argument : Value}
    {p : BoundParameter} (h : (BoundParameter.bind i minimize name argument).result = .ok p) :
    p.name = name ∧ IsBound i minimize argument p := by
  unfold BoundParameter.bind at h
  obtain ⟨b, hb, h⟩ := Reported.result_bind_eq_ok h
  cases h
  exact ⟨rfl, b, hb, rfl, rfl, rfl, rfl⟩

/-- Every argument is bound, in order, each under its own name. -/
theorem forall₂_bindAll {i : Inference} {minimize : Bool} {arguments : List (String × Value)}
    {bound : List BoundParameter} (h : (bindAll i minimize arguments).result = .ok bound) :
    List.Forall₂ (fun a p => p.name = a.1 ∧ IsBound i minimize a.2 p) arguments bound :=
  (Reported.forall₂_of_mapM h).imp fun _ _ hbound => isBound_of_bind hbound

namespace ArgumentSource

/-- Naming the arguments leaves them as they are. -/
theorem map_snd_arguments (source : ArgumentSource) :
    source.arguments.map Prod.snd = source.values := by
  cases source with
  | positions values =>
      refine List.map_snd_zip (Nat.le_of_eq ?_)
      rw [List.length_map, List.length_range]
  | names entries =>
      show (entries.map _).map Prod.snd = entries.map Prod.snd
      rw [List.map_map]
      rfl

/-- The argument that a key refers to has the name that stands in for the key. -/
theorem name_arguments {source : ArgumentSource} {key : MarkerKey} {place : Nat}
    (h : source.Selects key place) :
    ∃ value, source.arguments[place]? = some (key.parameterName, value) := by
  cases source with
  | positions values =>
      cases key with
      | position n =>
          obtain ⟨rfl, hplace⟩ := h
          refine ⟨values[place], ?_⟩
          show (List.zip _ values)[place]? = _
          rw [List.getElem?_zip_eq_some, List.getElem?_map, List.getElem?_range hplace]
          exact ⟨rfl, List.getElem?_eq_getElem hplace⟩
      | name s => exact h.elim
  | names entries =>
      cases key with
      | position n => exact h.elim
      | name s =>
          obtain ⟨value, hentry⟩ := h
          refine ⟨value, ?_⟩
          show (entries.map _)[place]? = _
          rw [List.getElem?_map, hentry]
          rfl

end ArgumentSource

/-! ## The call -/

/-- A call that executes a statement with arguments: its markers are replaced by the names of the
parameters that their arguments are bound to, and nothing else is changed. -/
structure Executes (i : Inference) (style : ParamStyle) (minimize : Bool) (sql : String)
    (source : ArgumentSource) (markers : List Marker) (r : Request) : Prop where
  procedure : r.procedure = some "sp_executesql"
  standing : ∀ m ∈ markers, m.StandsIn style sql.toList
  ordered : markers.Pairwise fun a b => a.stop ≤ b.start
  statement : r.sql =
    String.ofList (Marker.splice sql.toList (fun key => key.parameterName.toList) 0 markers)
  unmarked : Marker.ofStatement style r.sql = .ok []
  first : r.firstParameter = 2
  header : ∃ statement declarations, r.parameters = statement :: declarations :: r.userParameters ∧
    statement.name = "@stmt" ∧ statement.value = .text r.sql ∧ declarations.name = "@params" ∧
    declarations.value =
      .text (", ".intercalate (r.userParameters.map BoundParameter.declaration))
  bound : List.Forall₂ (IsBound i minimize) source.values r.userParameters
  named : ∀ m ∈ markers, (∃ place, source.Selects m.key place) ∧
    ∀ place, source.Selects m.key place →
      ∃ p, r.userParameters[place]? = some p ∧ p.name = m.key.parameterName

theorem value_nationalText (i : Inference) (name text : String) :
    (BoundParameter.nationalText i name text).value = .text text := by
  unfold BoundParameter.nationalText Inference.boundNationalText
  split
  · rfl
  · rfl

/-- A statement with arguments for its style, read as pieces, is sent as it is or as a call. -/
theorem ofStatement_eq {i : Inference} {style : ParamStyle} {minimize : Bool} {sql : String}
    {parameters : Value} {source : ArgumentSource} {pieces : List Piece}
    (hsource : ArgumentSource.ofValue style parameters = .ok source)
    (hpieces : Piece.ofStatement style sql = .ok pieces) :
    ofStatement i style minimize sql parameters =
      if source.size = 0 ∧ pieces.any isMarker = false then pure { sql := sql }
      else Reported.ofExcept (substitute source pieces) >>= fun statement =>
        bindAll i minimize source.arguments >>= fun bound =>
          pure (executeCall i statement bound) := by
  have hstart : ofStatement i style minimize sql parameters =
      Reported.ofExcept (ArgumentSource.ofValue style parameters) >>= fun source =>
        Reported.ofExcept (Piece.ofStatement style sql) >>= fun pieces =>
          if source.size = 0 ∧ pieces.any isMarker = false then pure { sql := sql }
          else Reported.ofExcept (substitute source pieces) >>= fun statement =>
            bindAll i minimize source.arguments >>= fun bound =>
              pure (executeCall i statement bound) := by
    cases parameters with
    | null =>
        unfold ArgumentSource.ofValue at hsource
        split at hsource
        · cases hsource
        · cases hsource
    | _ => rfl
  rw [hstart, hsource, hpieces]
  rfl

/-- Without parameters there is no call, and with a call the arguments suit the style. -/
theorem exists_source_of_isCall {i : Inference} {style : ParamStyle} {minimize : Bool}
    {sql : String} {parameters : Value} {r : Request}
    (h : (ofStatement i style minimize sql parameters).result = .ok r) (hcall : r.isCall = true) :
    ∃ source pieces, ArgumentSource.ofValue style parameters = .ok source ∧
      Piece.ofStatement style sql = .ok pieces := by
  cases parameters with
  | null =>
      cases h
      cases hcall
  | _ =>
      obtain ⟨source, hsource, h⟩ := Reported.result_bind_eq_ok h
      obtain ⟨pieces, hpieces, _⟩ := Reported.result_bind_eq_ok h
      exact ⟨source, pieces, hsource, hpieces⟩

/-- What the call for a statement is made of. -/
theorem executes_executeCall {i : Inference} {style : ParamStyle} {minimize : Bool} {sql : String}
    {source : ArgumentSource} {pieces : List Piece} {bound : List BoundParameter}
    (hpieces : Piece.ofStatement style sql = .ok pieces)
    (hselects : ∀ m ∈ Marker.ofPieces 0 pieces, ∃ place, source.Selects m.key place)
    (hbound : (bindAll i minimize source.arguments).result = .ok bound) :
    Executes i style minimize sql source (Marker.ofPieces 0 pieces)
      (executeCall i (String.ofList
        (pieces.flatMap (Piece.replaced fun key => key.parameterName.toList))) bound) where
  procedure := rfl
  standing _ hm := Marker.standsIn_ofStatement hpieces hm
  ordered := Marker.pairwise_ofPieces 0 pieces
  statement := by
    rw [Marker.splice_ofStatement hpieces]
    rfl
  unmarked := Marker.ofStatement_replaced hpieces fun _ _ hallowed hkey =>
    MarkerKey.inert_parameterName hallowed hkey
  first := rfl
  header := ⟨_, _, rfl, rfl, value_nationalText _ _ _, rfl, value_nationalText _ _ _⟩
  bound := by
    rw [← source.map_snd_arguments, List.forall₂_map_left_iff]
    exact (forall₂_bindAll hbound).imp fun _ _ h => h.2
  named m hm := by
    refine ⟨hselects m hm, ?_⟩
    intro place hplace
    obtain ⟨value, hargument⟩ := ArgumentSource.name_arguments hplace
    have hnames := forall₂_bindAll hbound
    have hlength := hnames.length_eq
    obtain ⟨hin, hvalue⟩ := List.getElem?_eq_some_iff.1 hargument
    have hin' : place < bound.length := hlength ▸ hin
    refine ⟨bound[place], List.getElem?_eq_getElem hin', ?_⟩
    have hname := (hnames.get hin hin').1
    rw [List.get_eq_getElem, List.get_eq_getElem, hvalue] at hname
    exact hname

/-- A call for a statement executes the statement. -/
theorem executes_of_isCall {i : Inference} {style : ParamStyle} {minimize : Bool} {sql : String}
    {parameters : Value} {r : Request} (hstyle : style = .numeric ∨ style = .named)
    (hr : (ofStatement i style minimize sql parameters).result = .ok r)
    (hcall : r.isCall = true) :
    ∃ source markers, ArgumentSource.ofValue style parameters = .ok source ∧
      Marker.ofStatement style sql = .ok markers ∧
      Executes i style minimize sql source markers r := by
  obtain ⟨source, pieces, hsource, hpieces⟩ := exists_source_of_isCall hr hcall
  have hsuits := ArgumentSource.suits_of_ofValue hstyle hsource
  rw [ofStatement_eq hsource hpieces] at hr
  split at hr
  · cases hr
    cases hcall
  · obtain ⟨statement, hstatement, hr⟩ := Reported.result_bind_eq_ok hr
    obtain ⟨bound, hbound, hr⟩ := Reported.result_bind_eq_ok hr
    cases hr
    obtain ⟨hselects, rfl⟩ := substitute_eq_ok hsuits hpieces hstatement
    have hmarkers : Marker.ofStatement style sql = .ok (Marker.ofPieces 0 pieces) := by
      unfold Marker.ofStatement
      rw [hpieces]
      rfl
    exact ⟨source, _, hsource, hmarkers, executes_executeCall hpieces hselects hbound⟩

/-- Without an argument for a marker there is no call. -/
theorem ofStatement_of_missing {i : Inference} {style : ParamStyle} {minimize : Bool}
    {sql : String} {parameters : Value} {source : ArgumentSource} {before after : List Marker}
    {m : Marker} (hstyle : style = .numeric ∨ style = .named)
    (hsource : ArgumentSource.ofValue style parameters = .ok source)
    (hmarkers : Marker.ofStatement style sql = .ok (before ++ m :: after))
    (hbefore : ∀ a ∈ before, ∃ place, source.Selects a.key place)
    (hmissing : ¬ ∃ place, source.Selects m.key place) :
    ofStatement i style minimize sql parameters = .fail m.key.missing := by
  obtain ⟨pieces, hpieces, hplaces⟩ := Marker.ofStatement_eq_ok hmarkers
  have hsome : ¬ (source.size = 0 ∧ pieces.any isMarker = false) := by
    rintro ⟨_, hnone⟩
    rw [ofPieces_eq_nil hnone] at hplaces
    exact List.append_ne_nil_of_right_ne_nil before (List.cons_ne_nil m after) hplaces
  have hfailed := mapM_pieceText_missing (ArgumentSource.suits_of_ofValue hstyle hsource)
    (Piece.legal_of_scan _ _ _ _ hpieces) 0 hplaces.symm hbefore hmissing
  rw [ofStatement_eq hsource hpieces, if_neg hsome]
  unfold substitute
  rw [hfailed]
  rfl

/-- For every statement and all arguments, if the request is a call then it executes the statement
with the arguments: its markers are replaced by the names of the parameters that their arguments
are bound to. If a marker has no argument, the first such marker is reported before any argument is
bound. -/
theorem executes_ofStatement (i : Inference) (minimize : Bool) (sql : String) (parameters : Value)
    {style : ParamStyle} (hstyle : style = .numeric ∨ style = .named) :
    (∀ r, (ofStatement i style minimize sql parameters).result = .ok r → r.isCall = true →
      ∃ source markers, ArgumentSource.ofValue style parameters = .ok source ∧
        Marker.ofStatement style sql = .ok markers ∧
        Executes i style minimize sql source markers r) ∧
    ∀ source before m after, ArgumentSource.ofValue style parameters = .ok source →
      Marker.ofStatement style sql = .ok (before ++ m :: after) →
      (∀ a ∈ before, ∃ place, source.Selects a.key place) →
      (¬ ∃ place, source.Selects m.key place) →
      ofStatement i style minimize sql parameters = .fail m.key.missing := by
  constructor
  · intro r hr hcall
    exact executes_of_isCall hstyle hr hcall
  · intro source before m after hsource hmarkers hbefore hmissing
    exact ofStatement_of_missing hstyle hsource hmarkers hbefore hmissing

/-- A statement with a repeated marker, a literal that looks like one, and an argument that is not
used; and a statement with two markers more than arguments. -/
theorem executes_ofStatement_repeated :
    (∃ r markers, (ofStatement { version := .v74 } .numeric true "SELECT ':1', :1, :1"
        (.tuple [.null, .parameter (.text "x") true])).result = .ok r ∧
      r.sql = "SELECT ':1', @param1, @param1" ∧
      Executes { version := .v74 } .numeric true "SELECT ':1', :1, :1"
        (.positions [.null, .parameter (.text "x") true]) markers r) ∧
    ofStatement { version := .v74 } .numeric true "SELECT :0, :2, :1" (.tuple [.null]) =
      .fail (.misuse (.noParameterAt 2)) := by
  constructor
  · have hcall : ((ofStatement { version := .v74 } .numeric true "SELECT ':1', :1, :1"
        (.tuple [.null, .parameter (.text "x") true])).result.toOption.map
          fun r => (r.sql, r.isCall)) = some ("SELECT ':1', @param1, @param1", true) := by
      decide +kernel
    cases hr : (ofStatement { version := .v74 } .numeric true "SELECT ':1', :1, :1"
        (.tuple [.null, .parameter (.text "x") true])).result with
    | error e =>
        rw [hr] at hcall
        cases hcall
    | ok r =>
        rw [hr] at hcall
        obtain ⟨hsql, hprocedure⟩ := Prod.mk.inj (Option.some.inj hcall)
        obtain ⟨source, markers, hsource, _, hexecutes⟩ :=
          (executes_ofStatement { version := .v74 } true "SELECT ':1', :1, :1"
            (.tuple [.null, .parameter (.text "x") true]) (.inl rfl)).1 r hr hprocedure
        cases hsource
        exact ⟨r, markers, rfl, hsql, hexecutes⟩
  · have hread : (Marker.ofStatement .numeric "SELECT :0, :2, :1").toOption =
        some ([⟨7, 9, .position 0⟩] ++ ⟨11, 13, .position 2⟩ :: [⟨15, 17, .position 1⟩]) := by
      decide +kernel
    have hmarkers : Marker.ofStatement .numeric "SELECT :0, :2, :1" =
        .ok ([⟨7, 9, .position 0⟩] ++ ⟨11, 13, .position 2⟩ :: [⟨15, 17, .position 1⟩]) := by
      cases hfound : Marker.ofStatement .numeric "SELECT :0, :2, :1" with
      | error e =>
          rw [hfound] at hread
          cases hread
      | ok found =>
          rw [hfound] at hread
          exact congrArg Except.ok (Option.some.inj hread)
    refine (executes_ofStatement { version := .v74 } true "SELECT :0, :2, :1" (.tuple [.null])
      (.inl rfl)).2 (.positions [.null]) _ _ _ rfl hmarkers ?_ ?_
    · intro a ha
      cases List.mem_singleton.1 ha
      exact ⟨0, rfl, by decide⟩
    · rintro ⟨place, _, hplace⟩
      exact absurd hplace (by decide)

end Request

end TdsClient
