import Mathlib.Data.Nat.Digits.Defs
import TdsClient.Proofs.Statement.Splice

/-!
# The lexemes of a statement

A statement consists of string literals, colons with the words behind them,
and other characters. Inside of a literal a doubled quote stands for one, and
a literal that is not closed runs to the end of the statement. The word
behind a colon is as long as can be.

The pieces of a statement are found without all that: each quote just ends
or starts a literal. A doubled quote ends one and starts another at once, so
the colons outside of literals are the same in both readings, and so are the
markers.

## Main definitions

* `Lexes` — how a statement consists of lexemes.
* `Lexeme.ofText` — the lexemes of a statement.

## Main results

* `lexes_iff` — every statement consists of its lexemes, and of no others.
* `Piece.scan_of_lexes` — the pieces of a statement by its lexemes.
* `Marker.ofStatement_lexed` — its markers are the colons of its lexemes.
-/

namespace TdsClient

/-- A lexeme of a statement: a literal with the content that it stands for, one that is not closed,
a colon outside of literals with the word behind it, which may be empty, or another character. -/
inductive Lexeme
  | literal (content : List Char)
  | openLiteral (content : List Char)
  | colon (word : List Char)
  | other (c : Char)
deriving DecidableEq

namespace Lexeme

/-- The content of a literal as it is written, with each quote doubled. -/
def doubled (content : List Char) : List Char :=
  content.flatMap fun c => if c = '\'' then ['\'', '\''] else [c]

/-- The text of a lexeme. -/
def source : Lexeme → List Char
  | .literal content => '\'' :: (doubled content ++ ['\''])
  | .openLiteral content => '\'' :: doubled content
  | .colon word => ':' :: word
  | .other c => [c]

end Lexeme

/-- A text consists of lexemes, where the words of a style are as long as can be. -/
inductive Lexes (style : ParamStyle) : List Lexeme → List Char → Prop
  | nil : Lexes style [] []
  | literal {content rest : List Char} {lexemes : List Lexeme} (hstop : rest.head? ≠ some '\'')
      (hrest : Lexes style lexemes rest) :
      Lexes style (.literal content :: lexemes) ('\'' :: (Lexeme.doubled content ++ '\'' :: rest))
  | openLiteral {content : List Char} :
      Lexes style [.openLiteral content] ('\'' :: Lexeme.doubled content)
  | colon {word rest : List Char} {lexemes : List Lexeme}
      (hallowed : ∀ c ∈ word, style.allows c = true)
      (hstop : ∀ c, rest.head? = some c → style.allows c = false)
      (hrest : Lexes style lexemes rest) :
      Lexes style (.colon word :: lexemes) (':' :: (word ++ rest))
  | other {c : Char} {rest : List Char} {lexemes : List Lexeme} (hquote : c ≠ '\'')
      (hcolon : c ≠ ':') (hrest : Lexes style lexemes rest) :
      Lexes style (.other c :: lexemes) (c :: rest)

namespace Lexeme

/-! ## Reading lexemes -/

/-- Reads a literal behind its first quote: its content, and what follows it if it is closed. -/
def readLiteral : List Char → List Char × Option (List Char)
  | [] => ([], none)
  | '\'' :: '\'' :: rest => (readLiteral rest).map ('\'' :: ·) id
  | c :: rest => if c = '\'' then ([], some rest) else (readLiteral rest).map (c :: ·) id

theorem doubled_quote (content : List Char) :
    doubled ('\'' :: content) = '\'' :: '\'' :: doubled content := rfl

theorem doubled_cons_of_ne {c : Char} (hc : c ≠ '\'') (content : List Char) :
    doubled (c :: content) = c :: doubled content := by
  rw [doubled, List.flatMap_cons, if_neg hc]
  rfl

/-- Another character than a quote is part of the content. -/
theorem readLiteral_cons_of_ne {c : Char} (hc : c ≠ '\'') (rest : List Char) :
    readLiteral (c :: rest) = (readLiteral rest).map (c :: ·) id := by
  rw [readLiteral, if_neg hc]
  rintro rest' rfl
  exact absurd rfl hc

/-- A literal ends with its last quote, unless another quote follows. -/
theorem readLiteral_closed (content : List Char) {rest : List Char}
    (hstop : rest.head? ≠ some '\'') :
    readLiteral (doubled content ++ '\'' :: rest) = (content, some rest) := by
  induction content with
  | nil =>
      cases rest with
      | nil => rfl
      | cons c rest =>
          have hc : c ≠ '\'' := fun h => hstop (congrArg some h)
          show readLiteral ('\'' :: c :: rest) = _
          rw [readLiteral, if_pos rfl]
          rintro rest' - ⟨⟩
          exact hc rfl
  | cons c content ih =>
      by_cases hc : c = '\''
      · subst hc
        rw [doubled_quote, List.cons_append, List.cons_append, readLiteral, ih]
        rfl
      · rw [doubled_cons_of_ne hc, List.cons_append, readLiteral_cons_of_ne hc, ih]
        rfl

/-- A literal that is not closed has no end. -/
theorem readLiteral_open (content : List Char) :
    readLiteral (doubled content) = (content, none) := by
  induction content with
  | nil => rfl
  | cons c content ih =>
      by_cases hc : c = '\''
      · subst hc
        rw [doubled_quote, readLiteral, ih]
        rfl
      · rw [doubled_cons_of_ne hc, readLiteral_cons_of_ne hc, ih]
        rfl

/-- Behind a quote there is the content of a literal, which is closed or not. -/
theorem exists_literal (text : List Char) :
    (∃ content rest, rest.head? ≠ some '\'' ∧ text = doubled content ++ '\'' :: rest) ∨
      ∃ content, text = doubled content := by
  fun_induction readLiteral text with
  | case1 => exact .inr ⟨[], rfl⟩
  | case2 rest ih =>
      rcases ih with ⟨content, behind, hstop, rfl⟩ | ⟨content, rfl⟩
      · exact .inl ⟨'\'' :: content, behind, hstop, rfl⟩
      · exact .inr ⟨'\'' :: content, rfl⟩
  | case3 rest hrest =>
      refine .inl ⟨[], rest, ?_, rfl⟩
      intro hhead
      cases rest with
      | nil => cases hhead
      | cons c rest =>
          cases hhead
          exact hrest rest rfl rfl
  | case4 c rest _ hc ih =>
      rcases ih with ⟨content, behind, hstop, rfl⟩ | ⟨content, rfl⟩
      · refine .inl ⟨c :: content, behind, hstop, ?_⟩
        rw [doubled_cons_of_ne hc, List.cons_append]
      · exact .inr ⟨c :: content, (doubled_cons_of_ne hc content).symm⟩

/-- What follows a literal is shorter than what was read. -/
theorem length_readLiteral {text content rest : List Char}
    (h : readLiteral text = (content, some rest)) : rest.length < text.length := by
  rcases exists_literal text with ⟨content', rest', hstop, rfl⟩ | ⟨content', rfl⟩
  · rw [readLiteral_closed content' hstop] at h
    cases h
    simp only [List.length_append, List.length_cons]
    omega
  · rw [readLiteral_open] at h
    cases h

/-- The lexemes of a text. -/
def ofText (style : ParamStyle) : List Char → List Lexeme
  | [] => []
  | c :: rest =>
    if c = '\'' then
      match _hread : readLiteral rest with
      | (content, some behind) => .literal content :: ofText style behind
      | (content, none) => [.openLiteral content]
    else if c = ':' then
      .colon (rest.takeWhile style.allows) :: ofText style (rest.dropWhile style.allows)
    else .other c :: ofText style rest
termination_by text => text.length
decreasing_by
  · exact Nat.lt_succ_of_lt (length_readLiteral _hread)
  · exact Nat.lt_succ_of_le (List.dropWhile_suffix style.allows).length_le
  · exact Nat.lt_succ_self _

variable (style : ParamStyle)

theorem ofText_literal (content : List Char) {rest : List Char}
    (hstop : rest.head? ≠ some '\'') :
    ofText style ('\'' :: (doubled content ++ '\'' :: rest)) =
      .literal content :: ofText style rest := by
  rw [ofText, if_pos rfl]
  split
  next content' behind hread =>
    rw [readLiteral_closed content hstop] at hread
    cases hread
    rfl
  next content' hread =>
    rw [readLiteral_closed content hstop] at hread
    cases hread

theorem ofText_openLiteral (content : List Char) :
    ofText style ('\'' :: doubled content) = [.openLiteral content] := by
  rw [ofText, if_pos rfl]
  split
  next content' behind hread =>
    rw [readLiteral_open] at hread
    cases hread
  next content' hread =>
    rw [readLiteral_open] at hread
    cases hread
    rfl

theorem ofText_colon (rest : List Char) :
    ofText style (':' :: rest) =
      .colon (rest.takeWhile style.allows) :: ofText style (rest.dropWhile style.allows) := by
  rw [ofText, if_neg (by decide), if_pos rfl]

theorem ofText_other {c : Char} (hquote : c ≠ '\'') (hcolon : c ≠ ':') (rest : List Char) :
    ofText style (c :: rest) = .other c :: ofText style rest := by
  rw [ofText, if_neg hquote, if_neg hcolon]

/-- Allowed characters up to one that is not are the longest run. -/
theorem span_exact {p : Char → Bool} {word rest : List Char} (hword : ∀ c ∈ word, p c = true)
    (hstop : ∀ c, rest.head? = some c → p c = false) :
    (word ++ rest).takeWhile p = word ∧ (word ++ rest).dropWhile p = rest := by
  rw [List.takeWhile_append_of_pos hword, List.dropWhile_append_of_pos hword]
  cases rest with
  | nil => exact ⟨List.append_nil word, rfl⟩
  | cons c rest =>
      have hc := hstop c rfl
      rw [List.takeWhile_cons_of_neg (by rw [hc]; decide),
        List.dropWhile_cons_of_neg (by rw [hc]; decide), List.append_nil]
      exact ⟨rfl, rfl⟩

end Lexeme

open Lexeme

variable {style : ParamStyle} {lexemes : List Lexeme} {text : List Char}

/-- A text consists of the lexemes that are read from it. -/
theorem lexes_ofText (style : ParamStyle) (text : List Char) :
    Lexes style (ofText style text) text := by
  induction hlength : text.length using Nat.strongRecOn generalizing text with
  | ind n ih =>
      subst hlength
      cases text with
      | nil =>
          rw [ofText]
          exact .nil
      | cons c rest =>
          by_cases hquote : c = '\''
          · subst hquote
            rcases exists_literal rest with ⟨content, behind, hstop, rfl⟩ | ⟨content, rfl⟩
            · rw [ofText_literal style content hstop]
              refine .literal hstop (ih _ ?_ behind rfl)
              simp only [List.length_cons, List.length_append]
              omega
            · rw [ofText_openLiteral]
              exact .openLiteral
          · by_cases hcolon : c = ':'
            · subst hcolon
              rw [ofText_colon]
              have hsplit : rest.takeWhile style.allows ++ rest.dropWhile style.allows = rest :=
                List.takeWhile_append_dropWhile
              have hlexes : Lexes style (.colon (rest.takeWhile style.allows) ::
                  ofText style (rest.dropWhile style.allows))
                  (':' :: (rest.takeWhile style.allows ++ rest.dropWhile style.allows)) := by
                refine .colon (fun d hd => ?_) (fun d hd => ?_) (ih _ ?_ _ rfl)
                · exact List.all_eq_true.1 List.all_takeWhile d hd
                · have hnot := List.head?_dropWhile_not style.allows rest
                  rw [hd] at hnot
                  simpa using hnot
                · exact Nat.lt_succ_of_le (List.dropWhile_suffix style.allows).length_le
              rwa [hsplit] at hlexes
            · rw [ofText_other style hquote hcolon]
              exact .other hquote hcolon (ih _ (Nat.lt_succ_self _) rest rfl)

/-- Every text consists of the lexemes that are read from it, and of no others. -/
theorem lexes_iff : Lexes style lexemes text ↔ lexemes = ofText style text := by
  constructor
  · intro h
    induction h with
    | nil => rw [ofText]
    | literal hstop _ ih => rw [ofText_literal style _ hstop, ih]
    | openLiteral => rw [ofText_openLiteral]
    | colon hallowed hstop _ ih =>
        obtain ⟨htake, hdrop⟩ := span_exact hallowed hstop
        rw [ofText_colon, htake, hdrop, ih]
    | other hquote hcolon _ ih => rw [ofText_other style hquote hcolon, ih]
  · rintro rfl
    exact lexes_ofText style text

/-- Lexemes make up the text that consists of them. -/
theorem source_of_lexes (h : Lexes style lexemes text) : lexemes.flatMap source = text := by
  induction h with
  | nil => rfl
  | literal _ _ ih =>
      rw [List.flatMap_cons, ih, source, List.cons_append, List.append_assoc]
      rfl
  | openLiteral => exact List.flatMap_singleton source _
  | colon _ _ _ ih =>
      rw [List.flatMap_cons, ih]
      rfl
  | other _ _ _ ih =>
      rw [List.flatMap_cons, ih]
      rfl

namespace Lexeme

/-! ## Pieces by lexemes -/

/-- What a word refers to: the number that its digits are, or the name that it is. -/
def keyOf : ParamStyle → List Char → MarkerKey
  | .numeric, word => .position (Nat.ofDigits 10 (word.reverse.map fun c => c.toNat - '0'.toNat))
  | _, word => .name (String.ofList word)

/-- The pieces that a lexeme is read as. -/
def pieces (style : ParamStyle) : Lexeme → List Piece
  | .colon word => [.marker word (keyOf style word)]
  | lexeme => lexeme.source.map .plain

/-- No number among the lexemes has more digits than can be read. -/
def FitsDigits (style : ParamStyle) (lexemes : List Lexeme) : Prop :=
  match style with
  | .numeric => ∀ word, .colon word ∈ lexemes → word.length ≤ MarkerKey.maxDigits
  | _ => True

theorem FitsDigits.tail {lexeme : Lexeme} (h : FitsDigits style (lexeme :: lexemes)) :
    FitsDigits style lexemes := by
  cases style with
  | numeric => exact fun word hword => h word (List.mem_cons_of_mem lexeme hword)
  | named => trivial
  | other given => trivial

end Lexeme

/-- A run of digits is the number that they are the digits of. -/
theorem Number.Digits.value_eq_ofDigits (digits : List Nat) :
    value digits = Nat.ofDigits 10 digits.reverse := by
  rw [value, List.foldl_eq_foldr_reverse, Nat.ofDigits_eq_foldr]
  simp only [Nat.cast_id, Nat.add_comm]

/-- A word of ASCII digits is read digit by digit. -/
theorem Number.Digits.parse?_of_isDigit {word : List Char} (hword : word ≠ [])
    (hdigits : ∀ c ∈ word, c.isDigit = true) :
    parse? word = some (value (word.map fun c => c.toNat - '0'.toNat)) := by
  have hall : ∀ text : List Char, (∀ c ∈ text, c.isDigit = true) →
      text.mapM ofChar? = some (text.map fun c => c.toNat - '0'.toNat) := by
    intro text htext
    induction text with
    | nil => rfl
    | cons c rest ih =>
        obtain ⟨hc, hrest⟩ := List.forall_mem_cons.1 htext
        rw [List.mapM_cons, ih hrest, ofChar?, if_pos hc]
        rfl
  rw [parse?, if_neg (by simpa using hword), hall word hdigits]
  rfl

/-- A word has its key, unless it is a number that has too many digits to be read. -/
theorem MarkerKey.ofWord_eq {word : List Char} (hword : word ≠ [])
    (hallowed : ∀ c ∈ word, style.allows c = true)
    (hfits : FitsDigits style (.colon word :: lexemes)) :
    MarkerKey.ofWord style word = .ok (keyOf style word) := by
  cases style with
  | numeric =>
      have hlength : ¬ maxDigits < word.length :=
        Nat.not_lt_of_le (hfits word List.mem_cons_self)
      show (if maxDigits < word.length then _ else _) = _
      rw [if_neg hlength, Number.Digits.parse?_of_isDigit hword hallowed,
        Number.Digits.value_eq_ofDigits, ← List.map_reverse]
      rfl
  | named => rfl
  | other given => rfl

namespace Piece

/-- Pieces in front of pieces in front of others. -/
theorem map_append_append (pieces pieces' : List Piece) (result : Except Error (List Piece)) :
    (result.map (pieces' ++ ·)).map (pieces ++ ·) = result.map ((pieces ++ pieces') ++ ·) := by
  cases result with
  | error e => rfl
  | ok rest => exact congrArg Except.ok (List.append_assoc ..).symm

/-- A character that starts no marker is a piece. -/
theorem scan_plain (style : ParamStyle) {inLiteral : Bool} {c : Char}
    (hc : ¬ (c = ':' ∧ inLiteral = false)) (rest : List Char) :
    scan style inLiteral (c :: rest) =
      (scan style (if c = '\'' then !inLiteral else inLiteral) rest).map ([.plain c] ++ ·) := by
  rw [scan, if_neg hc]
  cases scan style (if c = '\'' then !inLiteral else inLiteral) rest with
  | error e => rfl
  | ok pieces => rfl

/-- A quote is a piece, and ends or starts a literal. -/
theorem scan_quote (style : ParamStyle) (inLiteral : Bool) (rest : List Char) :
    scan style inLiteral ('\'' :: rest) =
      (scan style (!inLiteral) rest).map ([.plain '\''] ++ ·) := by
  rw [scan_plain style (by simp), if_pos rfl]

/-- The content of a literal is read as it is written. The quotes of a doubled quote end a literal
and start another one. -/
theorem scan_doubled (style : ParamStyle) (content rest : List Char) :
    scan style true (doubled content ++ rest) =
      (scan style true rest).map ((doubled content).map plain ++ ·) := by
  induction content with
  | nil => cases hrest : scan style true rest <;> exact hrest
  | cons c content ih =>
      by_cases hc : c = '\''
      · subst hc
        rw [doubled_quote, List.cons_append, List.cons_append, scan_quote, scan_quote,
          Bool.not_true, Bool.not_false, ih, map_append_append, map_append_append]
        rfl
      · rw [doubled_cons_of_ne hc, List.cons_append, scan_plain style (by simp), if_neg hc, ih,
          map_append_append]
        rfl

/-- A colon without a word behind it cannot be read. -/
theorem scan_colon_nil (style : ParamStyle) {rest : List Char}
    (hstop : ∀ c, rest.head? = some c → style.allows c = false) :
    scan style false (':' :: rest) = .error (.interface .invalidMarker) := by
  have hnone : ∀ c ∈ ([] : List Char), style.allows c = true := nofun
  have hword : rest.takeWhile style.allows = [] := (span_exact hnone hstop).1
  rw [scan, if_pos ⟨rfl, rfl⟩]
  simp [hword]

/-- A colon with a word is a marker. -/
theorem scan_colon {word rest : List Char} {key : MarkerKey} (hword : word ≠ [])
    (hallowed : ∀ c ∈ word, style.allows c = true)
    (hstop : ∀ c, rest.head? = some c → style.allows c = false)
    (hkey : MarkerKey.ofWord style word = .ok key) :
    scan style false (':' :: (word ++ rest)) =
      (scan style false rest).map ([.marker word key] ++ ·) := by
  obtain ⟨htake, hdrop⟩ := span_exact hallowed hstop
  rw [scan, if_pos ⟨rfl, rfl⟩]
  simp only [htake, hdrop, hkey, List.isEmpty_iff, hword, if_false]
  cases scan style false rest with
  | error e => rfl
  | ok pieces => rfl

end Piece

namespace Lexeme

/-- What a statement of lexemes is read as. -/
def outcome (style : ParamStyle) (lexemes : List Lexeme) : Except Error (List Piece) :=
  if .colon [] ∈ lexemes then .error (.interface .invalidMarker)
  else .ok (lexemes.flatMap (pieces style))

/-- A lexeme that can be read stands in front of others. -/
theorem outcome_cons {lexeme : Lexeme} (hlexeme : lexeme ≠ .colon []) :
    outcome style (lexeme :: lexemes) =
      (outcome style lexemes).map (lexeme.pieces style ++ ·) := by
  have hmem : .colon [] ∈ lexeme :: lexemes ↔ .colon [] ∈ lexemes :=
    ⟨fun h => (List.mem_cons.1 h).resolve_left hlexeme.symm, List.mem_cons_of_mem lexeme⟩
  unfold outcome
  by_cases hcolon : .colon [] ∈ lexemes
  · rw [if_pos hcolon, if_pos (hmem.2 hcolon)]
    rfl
  · rw [if_neg hcolon, if_neg (mt hmem.1 hcolon)]
    rfl

end Lexeme

/-- A statement is read as its lexemes say, unless a number is too long. -/
theorem Piece.scan_of_lexes (h : Lexes style lexemes text) (hfits : FitsDigits style lexemes) :
    scan style false text = outcome style lexemes := by
  induction h with
  | nil =>
      rw [scan]
      rfl
  | @literal content rest lexemes hstop hrest ih =>
      have hlexeme : Lexeme.literal content ≠ .colon [] := by simp
      rw [scan_quote, Bool.not_false, scan_doubled, scan_quote, Bool.not_true, ih hfits.tail,
        map_append_append, map_append_append, outcome_cons hlexeme]
      have hpieces : (literal content).pieces style =
          [.plain '\''] ++ ((doubled content).map .plain ++ [.plain '\'']) := by
        show List.map _ ('\'' :: (doubled content ++ ['\''])) = _
        rw [List.map_cons, List.map_append]
        rfl
      rw [hpieces, List.append_assoc]
  | @openLiteral content =>
      have hlexeme : Lexeme.openLiteral content ≠ .colon [] := by simp
      have hdoubled := scan_doubled style content []
      rw [List.append_nil, scan] at hdoubled
      rw [scan_quote, Bool.not_false, hdoubled, outcome_cons hlexeme]
      rfl
  | @colon word rest lexemes hallowed hstop hrest ih =>
      by_cases hword : word = []
      · subst hword
        rw [List.nil_append, scan_colon_nil style hstop, outcome, if_pos List.mem_cons_self]
      · have hlexeme : Lexeme.colon word ≠ .colon [] := fun h => hword (Lexeme.colon.inj h)
        rw [scan_colon hword hallowed hstop (MarkerKey.ofWord_eq hword hallowed hfits),
          ih hfits.tail, outcome_cons hlexeme]
        rfl
  | @other c rest lexemes hquote hcolon hrest ih =>
      have hlexeme : Lexeme.other c ≠ .colon [] := by simp
      rw [scan_plain style (fun h => hcolon h.1), if_neg hquote, ih hfits.tail,
        outcome_cons hlexeme]
      rfl

namespace Marker

/-! ## Markers by lexemes -/

/-- A marker is a colon among the lexemes of a text that starts at a place: it begins where the
lexemes before the colon end, and has the word behind the colon. -/
def IsLexeme (style : ParamStyle) (place : Nat) (lexemes : List Lexeme) (m : Marker) : Prop :=
  ∃ before word after, lexemes = before ++ .colon word :: after ∧
    m.start = place + (before.flatMap source).length ∧ m.stop = m.start + 1 + word.length ∧
    m.key = keyOf style word

/-- Text without markers in front of pieces only moves their markers. -/
theorem ofPieces_plain_append (place : Nat) (text : List Char) (pieces : List Piece) :
    ofPieces place (text.map .plain ++ pieces) = ofPieces (place + text.length) pieces := by
  induction text generalizing place with
  | nil => rfl
  | cons c rest ih =>
      show ofPieces (place + 1) (rest.map .plain ++ pieces) = _
      rw [ih, List.length_cons, Nat.add_assoc, Nat.add_comm 1]

/-- A lexeme that is no colon has no marker. -/
theorem ofPieces_cons (style : ParamStyle) (place : Nat) {lexeme : Lexeme}
    (hlexeme : ∀ word, lexeme ≠ .colon word) (lexemes : List Lexeme) :
    ofPieces place ((lexeme :: lexemes).flatMap (Lexeme.pieces style)) =
      ofPieces (place + lexeme.source.length) (lexemes.flatMap (Lexeme.pieces style)) := by
  rw [List.flatMap_cons, ← ofPieces_plain_append]
  cases lexeme with
  | colon word => exact absurd rfl (hlexeme word)
  | literal content => rfl
  | openLiteral content => rfl
  | other c => rfl

/-- Where there is no lexeme, there is no marker. -/
theorem not_isLexeme_nil {place : Nat} {m : Marker} : ¬ m.IsLexeme style place [] := by
  rintro ⟨before, word, after, heq, -⟩
  exact absurd heq.symm (List.append_ne_nil_of_right_ne_nil _ (List.cons_ne_nil _ _))

/-- A colon among lexemes is the first of them or one of those behind it. -/
theorem isLexeme_cons {place : Nat} {lexeme : Lexeme} {m : Marker} :
    m.IsLexeme style place (lexeme :: lexemes) ↔
      (∃ word, lexeme = .colon word ∧ m = ⟨place, place + 1 + word.length, keyOf style word⟩) ∨
        m.IsLexeme style (place + lexeme.source.length) lexemes := by
  constructor
  · rintro ⟨before, word, after, heq, hstart, hstop, hkey⟩
    rcases List.cons_eq_append_iff.1 heq with ⟨rfl, hcons⟩ | ⟨before', rfl, hrest⟩
    · obtain ⟨rfl, rfl⟩ := List.cons.inj hcons
      obtain ⟨start, stop, key⟩ := m
      simp only [List.flatMap_nil, List.length_nil, Nat.add_zero] at hstart hstop hkey
      subst hstart hstop hkey
      exact .inl ⟨word, rfl, rfl⟩
    · rw [List.flatMap_cons, List.length_append, ← Nat.add_assoc] at hstart
      exact .inr ⟨before', word, after, hrest, hstart, hstop, hkey⟩
  · rintro (⟨word, rfl, rfl⟩ | ⟨before, word, after, rfl, hstart, hstop, hkey⟩)
    · exact ⟨[], word, lexemes, rfl, rfl, rfl, rfl⟩
    · refine ⟨lexeme :: before, word, after, rfl, ?_, hstop, hkey⟩
      rw [List.flatMap_cons, List.length_append, ← Nat.add_assoc, hstart]

/-- The markers among the pieces of lexemes are their colons. -/
theorem mem_ofPieces_iff {place : Nat} {m : Marker} :
    m ∈ ofPieces place (lexemes.flatMap (Lexeme.pieces style)) ↔
      m.IsLexeme style place lexemes := by
  induction lexemes generalizing place with
  | nil => exact iff_of_false List.not_mem_nil not_isLexeme_nil
  | cons lexeme lexemes ih =>
      rw [isLexeme_cons, ← ih]
      by_cases hcolon : ∃ word, lexeme = .colon word
      · obtain ⟨word, rfl⟩ := hcolon
        rw [show (Lexeme.colon word).source.length = 1 + word.length from Nat.add_comm _ _,
          ← Nat.add_assoc]
        simp [Lexeme.pieces, ofPieces]
      · have hne : ∀ word, lexeme ≠ .colon word := not_exists.1 hcolon
        rw [ofPieces_cons style place hne]
        simp [hne]

/-- A marker covers its colon at least, and ends within the text. -/
theorem bounds_of_isLexeme {m : Marker} (hm : m.IsLexeme style 0 lexemes) :
    m.start < m.stop ∧ m.stop ≤ (lexemes.flatMap source).length := by
  obtain ⟨before, word, after, rfl, hstart, hstop, -⟩ := hm
  have hlength : ((before ++ .colon word :: after).flatMap source).length =
      (before.flatMap source).length + (word.length + 1) + (after.flatMap source).length := by
    rw [List.flatMap_append, List.flatMap_cons, List.length_append, List.length_append,
      ← Nat.add_assoc]
    rfl
  omega

/-- The markers of a statement are what its lexemes say. A statement consists of lexemes in one way
only. It cannot be read if and only if a colon outside of literals has no word behind it. Otherwise
the markers are the colons, each up to the end of its word and with the number or the name that the
word is, and they stand one behind the other within the statement. -/
theorem ofStatement_lexed (style : ParamStyle) (sql : String)
    (hfits : FitsDigits style (ofText style sql.toList)) :
    (∀ lexemes, Lexes style lexemes sql.toList ↔ lexemes = ofText style sql.toList) ∧
    (ofStatement style sql = .error (.interface .invalidMarker) ↔
      .colon [] ∈ ofText style sql.toList) ∧
    (.colon [] ∉ ofText style sql.toList → ∃ markers, ofStatement style sql = .ok markers ∧
      (∀ m, m ∈ markers ↔ m.IsLexeme style 0 (ofText style sql.toList)) ∧
      markers.Pairwise (fun a b => a.stop ≤ b.start) ∧
      ∀ m ∈ markers, m.start < m.stop ∧ m.stop ≤ sql.length) := by
  have hlexes := lexes_ofText style sql.toList
  have hpieces : Piece.ofStatement style sql = outcome style (ofText style sql.toList) :=
    Piece.scan_of_lexes hlexes hfits
  by_cases hcolon : .colon [] ∈ ofText style sql.toList
  · have herror : ofStatement style sql = .error (.interface .invalidMarker) := by
      rw [ofStatement, hpieces, outcome, if_pos hcolon]
      rfl
    exact ⟨fun _ => lexes_iff, iff_of_true herror hcolon, fun h => absurd hcolon h⟩
  · have hok : ofStatement style sql =
        .ok (ofPieces 0 ((ofText style sql.toList).flatMap (Lexeme.pieces style))) := by
      rw [ofStatement, hpieces, outcome, if_neg hcolon]
      rfl
    refine ⟨fun _ => lexes_iff, iff_of_false (by rw [hok]; nofun) hcolon, fun _ =>
      ⟨_, hok, fun _ => mem_ofPieces_iff, pairwise_ofPieces 0 _, fun m hm => ?_⟩⟩
    have hbounds := bounds_of_isLexeme (mem_ofPieces_iff.1 hm)
    rwa [source_of_lexes hlexes, String.length_toList] at hbounds

/-- A colon in a literal with a doubled quote is no marker, and the one behind the literal is. -/
theorem ofStatement_lexed_doubled_quote :
    ofText .numeric "':1''',:07".toList =
      [.literal [':', '1', '\''], .other ',', .colon ['0', '7']] ∧
    ∃ markers, ofStatement .numeric "':1''',:07" = .ok markers ∧
      ∀ m, m ∈ markers ↔ m = ⟨7, 10, .position 7⟩ := by
  have hlexemes : ofText .numeric "':1''',:07".toList =
      [.literal [':', '1', '\''], .other ',', .colon ['0', '7']] := by
    refine (lexes_iff.1 ?_).symm
    show Lexes .numeric _ ('\'' :: (doubled [':', '1', '\''] ++ '\'' :: [',', ':', '0', '7']))
    exact .literal (by decide)
      (.other (by decide) (by decide) (.colon (List.all_eq_true.1 rfl) nofun .nil))
  have hfits : FitsDigits .numeric (ofText .numeric "':1''',:07".toList) := by
    rw [hlexemes]
    intro word hword
    obtain rfl : word = ['0', '7'] := by simpa using hword
    decide
  obtain ⟨-, -, hok⟩ := ofStatement_lexed .numeric "':1''',:07" hfits
  obtain ⟨markers, hmarkers, hmem, -⟩ := hok (by rw [hlexemes]; decide)
  have hkey : keyOf .numeric ['0', '7'] = .position 7 := by decide
  refine ⟨hlexemes, markers, hmarkers, fun m => ?_⟩
  rw [hmem, hlexemes, isLexeme_cons, isLexeme_cons, isLexeme_cons]
  simp [not_isLexeme_nil, source, doubled, hkey]

end Marker

end TdsClient
