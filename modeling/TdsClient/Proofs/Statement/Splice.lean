import TdsClient.Statement.Marker

/-!
# Replacing the markers of a statement

The markers of a statement stand outside of its literals, one after the
other, and what is between them is never looked at again. A statement whose
markers are replaced by text without a colon and without a quote has no
marker: quotes come in the same order as before, so every colon that is left
stands inside a literal as it did.

## Main definitions

* `Marker.splice` — a text with its markers replaced.
* `Marker.StandsIn` — what a marker is in a text.
* `Piece.Legal` — how a statement is read, as a relation.

## Main results

* `splice_ofStatement` — pieces are replaced as their markers are.
* `ofStatement_replaced` — without a colon and a quote in the replacements, no marker is left.
-/

namespace TdsClient

/-- A text that can stand in for a marker wherever it is: it has no colon and no quote. -/
def Inert (text : List Char) : Prop := ∀ c ∈ text, c ≠ ':' ∧ c ≠ '\''

instance (text : List Char) : Decidable (Inert text) :=
  text.decidableBAll fun c => c ≠ ':' ∧ c ≠ '\''

theorem inert_append {a b : List Char} (ha : Inert a) (hb : Inert b) : Inert (a ++ b) := by
  intro c hc
  rcases List.mem_append.1 hc with hc | hc
  · exact ha c hc
  · exact hb c hc

/-- A quote is not part of a marker. -/
theorem not_allows_quote (style : ParamStyle) : ¬ style.allows '\'' = true := by
  cases style with
  | numeric => decide
  | named => decide
  | other given =>
      show ¬ ('\''.isAlphanum || '\'' = '_') = true
      decide

namespace Piece

/-! ## How a statement is read -/

/-- The pieces of a statement of a style, which may start inside a literal. -/
inductive Legal (style : ParamStyle) : Bool → List Piece → Prop
  | nil {inLiteral : Bool} : Legal style inLiteral []
  | plain {inLiteral : Bool} {c : Char} {rest : List Piece} (hcolon : c = ':' → inLiteral = true)
      (hrest : Legal style (if c = '\'' then !inLiteral else inLiteral) rest) :
      Legal style inLiteral (.plain c :: rest)
  | marker {word : List Char} {key : MarkerKey} {rest : List Piece} (hword : word ≠ [])
      (hallowed : ∀ c ∈ word, style.allows c = true)
      (hkey : MarkerKey.ofWord style word = .ok key) (hrest : Legal style false rest) :
      Legal style false (.marker word key :: rest)

/-- What is read is legal. -/
theorem legal_of_scan (style : ParamStyle) (inLiteral : Bool) (text : List Char)
    (pieces : List Piece) (h : scan style inLiteral text = .ok pieces) :
    Legal style inLiteral pieces := by
  fun_induction scan style inLiteral text generalizing pieces with
  | case1 =>
      cases h
      exact .nil
  | case2 => contradiction
  | case3 inLiteral c rest hc word hword ih =>
      simp only [bind, Except.bind] at h
      split at h
      · contradiction
      next key hkey =>
        split at h
        · contradiction
        next ps hps =>
          cases h
          have houtside : inLiteral = false := hc.2
          subst houtside
          refine .marker ?_ ?_ hkey (ih ps hps)
          · intro hnil
            exact hword (List.isEmpty_iff.2 hnil)
          · intro c' hc'
            exact List.all_eq_true.1 List.all_takeWhile c' hc'
  | case4 inLiteral c rest hc ih =>
      simp only [bind, Except.bind] at h
      split at h
      · contradiction
      next ps hps =>
        cases h
        refine .plain ?_ (ih ps hps)
        intro hcolon
        cases hliteral : inLiteral with
        | true => rfl
        | false => exact absurd ⟨hcolon, hliteral⟩ hc

/-! ## Text without markers -/

/-- A text in which every colon stands inside a literal. -/
def Unmarked : Bool → List Char → Prop
  | _, [] => True
  | inLiteral, c :: rest =>
    (c = ':' → inLiteral = true) ∧ Unmarked (if c = '\'' then !inLiteral else inLiteral) rest

/-- A text in which every colon stands inside a literal is read as it stands. -/
theorem scan_of_unmarked (style : ParamStyle) {inLiteral : Bool} {text : List Char}
    (h : Unmarked inLiteral text) : scan style inLiteral text = .ok (text.map plain) := by
  induction text generalizing inLiteral with
  | nil =>
      rw [scan]
      rfl
  | cons c rest ih =>
      have hmarker : ¬ (c = ':' ∧ inLiteral = false) := by
        intro hc
        rw [h.1 hc.1] at hc
        cases hc.2
      rw [scan, if_neg hmarker, ih h.2]
      rfl

/-- Text without a colon and without a quote leaves what follows it as it is. -/
theorem unmarked_append {name : List Char} (hname : Inert name) {inLiteral : Bool}
    {text : List Char} (htext : Unmarked inLiteral text) : Unmarked inLiteral (name ++ text) := by
  induction name with
  | nil => exact htext
  | cons c rest ih =>
      obtain ⟨hcolon, hquote⟩ := hname c List.mem_cons_self
      have hrest : Unmarked inLiteral (rest ++ text) :=
        ih fun c' hc' => hname c' (List.mem_cons_of_mem c hc')
      refine ⟨fun h => absurd h hcolon, ?_⟩
      rw [if_neg hquote]
      exact hrest

/-! ## Replacing -/

/-- The text of a piece, or what stands in for it if it is a marker. -/
def replaced (f : MarkerKey → List Char) : Piece → List Char
  | .plain c => [c]
  | .marker _ key => f key

/-- Where every marker is replaced by text without a colon and without a quote, none is left. -/
theorem Legal.unmarked_replaced {style : ParamStyle} {f : MarkerKey → List Char}
    {inLiteral : Bool} {pieces : List Piece} (h : Legal style inLiteral pieces)
    (hf : ∀ word key, (∀ c ∈ word, style.allows c = true) →
      MarkerKey.ofWord style word = .ok key → Inert (f key)) :
    Unmarked inLiteral (pieces.flatMap (replaced f)) := by
  induction h with
  | nil => trivial
  | plain hcolon hrest ih => exact ⟨hcolon, ih⟩
  | marker hword hallowed hkey hrest ih =>
      rw [List.flatMap_cons]
      exact unmarked_append (hf _ _ hallowed hkey) ih

end Piece

namespace Marker

/-- A text with its markers replaced, from a place on. -/
def splice (text : List Char) (f : MarkerKey → List Char) (place : Nat) :
    List Marker → List Char
  | [] => text.drop place
  | m :: rest => (text.take m.start).drop place ++ f m.key ++ splice text f m.stop rest

/-- A marker in a text: behind an even number of quotes, a colon and a word that spells its key. -/
def StandsIn (style : ParamStyle) (text : List Char) (m : Marker) : Prop :=
  ∃ before word after, text = before ++ ':' :: (word ++ after) ∧
    before.length = m.start ∧ before.length + 1 + word.length = m.stop ∧
    before.count '\'' % 2 = 0 ∧ word ≠ [] ∧ (∀ c ∈ word, style.allows c = true) ∧
    MarkerKey.ofWord style word = .ok m.key

/-- Text behind which no marker stands is kept up to the next one. -/
theorem splice_pieces (f : MarkerKey → List Char) (pieces : List Piece)
    (before kept : List Char) :
    splice (before ++ kept ++ pieces.flatMap Piece.source) f before.length
        (ofPieces (before.length + kept.length) pieces) =
      kept ++ pieces.flatMap (Piece.replaced f) := by
  induction pieces generalizing before kept with
  | nil =>
      show (before ++ kept ++ []).drop before.length = kept ++ []
      rw [List.append_nil, List.append_nil, List.drop_left]
  | cons piece rest ih =>
      cases piece with
      | plain c =>
          have hkept := ih before (kept ++ [c])
          rw [List.length_append, List.length_singleton, ← Nat.add_assoc] at hkept
          rw [List.flatMap_cons, List.flatMap_cons]
          show splice (before ++ kept ++ ([c] ++ _)) f _ (ofPieces _ rest) = kept ++ ([c] ++ _)
          rw [← List.append_assoc, List.append_assoc before, hkept, List.append_assoc]
      | marker word key =>
          have hnext := ih (before ++ kept ++ ':' :: word) []
          have hstop : (before ++ kept ++ ':' :: word).length =
              before.length + kept.length + 1 + word.length := by
            rw [List.length_append, List.length_append, List.length_cons]
            omega
          simp only [List.append_nil, List.nil_append, List.length_nil, Nat.add_zero,
            hstop] at hnext
          rw [List.flatMap_cons, List.flatMap_cons, ← List.append_assoc]
          show List.drop before.length (List.take (before.length + kept.length) _) ++ f key ++
            splice (before ++ kept ++ ':' :: word ++ _) f _ (ofPieces _ rest) = _
          rw [hnext, ← List.length_append, List.append_assoc (before ++ kept), List.take_left,
            List.drop_left, List.append_assoc]
          rfl

/-- The markers of pieces stand behind the text before them. -/
theorem le_start_of_mem {place : Nat} {pieces : List Piece} {m : Marker}
    (hm : m ∈ ofPieces place pieces) : place ≤ m.start := by
  induction pieces generalizing place with
  | nil => cases hm
  | cons piece rest ih =>
      cases piece with
      | plain c => exact Nat.le_of_succ_le (ih hm)
      | marker word key =>
          rcases List.mem_cons.1 hm with rfl | hrest
          · exact Nat.le_refl place
          · have hplace : place + 1 + word.length ≤ m.start := ih hrest
            omega

/-- Markers stand one behind the other. -/
theorem pairwise_ofPieces (place : Nat) (pieces : List Piece) :
    (ofPieces place pieces).Pairwise fun a b => a.stop ≤ b.start := by
  induction pieces generalizing place with
  | nil => exact .nil
  | cons piece rest ih =>
      cases piece with
      | plain c => exact ih (place + 1)
      | marker word key => exact .cons (fun _ hm => le_start_of_mem hm) (ih _)

/-- Behind a text that leaves a literal open or not as the pieces need it, their markers stand
where they are found. -/
theorem standsIn_of_mem {style : ParamStyle} {inLiteral : Bool} {pieces : List Piece}
    (hlegal : Piece.Legal style inLiteral pieces) {before : List Char}
    (hbefore : before.count '\'' % 2 = if inLiteral then 1 else 0) {m : Marker}
    (hm : m ∈ ofPieces before.length pieces) :
    m.StandsIn style (before ++ pieces.flatMap Piece.source) := by
  induction hlegal generalizing before with
  | nil => cases hm
  | @plain inLiteral c rest hcolon hrest ih =>
      have hcount : (before ++ [c]).count '\'' % 2 =
          if (if c = '\'' then !inLiteral else inLiteral) then 1 else 0 := by
        rw [List.count_append, List.count_singleton]
        by_cases hquote : c = '\''
        · subst hquote
          cases inLiteral with
          | true =>
              simp at hbefore ⊢
              omega
          | false =>
              simp at hbefore ⊢
              omega
        · simpa [hquote] using hbefore
      have hlength : (before ++ [c]).length = before.length + 1 := List.length_append
      have hstands := ih hcount (by rw [hlength]; exact hm)
      rw [List.append_assoc] at hstands
      exact hstands
  | @marker word key rest hword hallowed hkey hrest ih =>
      rcases List.mem_cons.1 hm with rfl | hm
      · exact ⟨before, word, rest.flatMap Piece.source, rfl, rfl, rfl, hbefore, hword, hallowed,
          hkey⟩
      · have hinert : '\'' ∉ word := by
          intro hquote
          exact not_allows_quote style (hallowed _ hquote)
        have hcount : (before ++ ':' :: word).count '\'' % 2 = 0 := by
          rw [List.count_append, List.count_cons_of_ne (by decide), List.count_eq_zero.2 hinert]
          exact hbefore
        have hlength : (before ++ ':' :: word).length = before.length + 1 + word.length := by
          rw [List.length_append, List.length_cons]
          omega
        have hstands := ih hcount (by rw [hlength]; exact hm)
        rw [List.append_assoc] at hstands
        exact hstands

/-! ## Statements -/

/-- A statement is read as its pieces are, and nothing else. -/
theorem ofStatement_eq_ok {style : ParamStyle} {sql : String} {markers : List Marker}
    (h : ofStatement style sql = .ok markers) :
    ∃ pieces, Piece.ofStatement style sql = .ok pieces ∧ markers = ofPieces 0 pieces := by
  unfold ofStatement at h
  cases hpieces : Piece.ofStatement style sql with
  | error e =>
      rw [hpieces] at h
      cases h
  | ok pieces =>
      rw [hpieces] at h
      cases h
      exact ⟨pieces, rfl, rfl⟩

/-- The markers of a statement stand where they are found. -/
theorem standsIn_ofStatement {style : ParamStyle} {sql : String} {pieces : List Piece}
    (h : Piece.ofStatement style sql = .ok pieces) {m : Marker} (hm : m ∈ ofPieces 0 pieces) :
    m.StandsIn style sql.toList := by
  have hlegal := Piece.legal_of_scan style false sql.toList pieces h
  have hnone : ([] : List Char).count '\'' % 2 = if false then 1 else 0 := rfl
  have hstands := standsIn_of_mem hlegal hnone hm
  rw [List.nil_append, Piece.source_scan style false sql.toList pieces h] at hstands
  exact hstands

/-- Where the markers of a statement are replaced, its pieces are. -/
theorem splice_ofStatement {style : ParamStyle} {sql : String} {pieces : List Piece}
    (h : Piece.ofStatement style sql = .ok pieces) (f : MarkerKey → List Char) :
    splice sql.toList f 0 (ofPieces 0 pieces) = pieces.flatMap (Piece.replaced f) := by
  have hsplice := splice_pieces f pieces [] []
  rw [Piece.source_scan style false sql.toList pieces h] at hsplice
  exact hsplice

/-- Text that is no marker has none. -/
theorem ofPieces_plain (place : Nat) (text : List Char) :
    ofPieces place (text.map Piece.plain) = [] := by
  induction text generalizing place with
  | nil => rfl
  | cons c rest ih => exact ih (place + 1)

/-- A statement has no marker once every marker is replaced by text without a colon and without a
quote. -/
theorem ofStatement_replaced {style : ParamStyle} {sql : String} {pieces : List Piece}
    (h : Piece.ofStatement style sql = .ok pieces) {f : MarkerKey → List Char}
    (hf : ∀ word key, (∀ c ∈ word, style.allows c = true) →
      MarkerKey.ofWord style word = .ok key → Inert (f key)) :
    ofStatement style (String.ofList (pieces.flatMap (Piece.replaced f))) = .ok [] := by
  have hlegal := Piece.legal_of_scan style false sql.toList pieces h
  have hscan := Piece.scan_of_unmarked style (hlegal.unmarked_replaced hf)
  unfold ofStatement Piece.ofStatement
  rw [String.toList_ofList, hscan]
  exact congrArg Except.ok (ofPieces_plain 0 _)

end Marker

end TdsClient
