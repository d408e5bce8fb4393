import TdsClient.Error

/-!
# Parameter markers

A statement names its parameters by markers: a colon followed by a
position or a name, depending on the style in use. Inside string literals
a colon is text. A literal runs from one quote to the next; a doubled
quote ends a literal and starts another at once, so it needs no rule of
its own.

A statement is read as pieces, each a marker or a single character of
other text, from which the statement can be put together again.

## Main definitions

* `Piece.scan` — the pieces of a statement.
* `Marker.ofPieces` — its markers with their places.

## Main results

* `source_scan` — the pieces make up the statement.
-/

namespace TdsClient

/-- How markers name parameters: by position or by name. A connection may also be given another
style, which is of no use: its markers look like names, but its arguments have positions. -/
inductive ParamStyle
  | numeric
  | named
  | other (given : Value)

namespace ParamStyle

/-- A style as it is given. -/
def given : ParamStyle → Value
  | .numeric => .text "numeric"
  | .named => .text "named"
  | .other given => given

/-- The style that is given. -/
def ofValue : Value → ParamStyle
  | .text "numeric" => .numeric
  | .text "named" => .named
  | value => .other value

/-- Whether arguments have names. -/
def isNamed : ParamStyle → Bool
  | .named => true
  | _ => false

/-- The characters that a marker of a style consists of. -/
def allows : ParamStyle → Char → Bool
  | .numeric, c => c.isDigit
  | _, c => c.isAlphanum || c = '_'

end ParamStyle

/-- What a marker refers to. -/
inductive MarkerKey
  | position (n : Nat)
  | name (s : String)
deriving DecidableEq

namespace MarkerKey

/-- Longest run of digits that is read as a number. -/
def maxDigits : Nat := 4300

/-- The key that the characters of a marker spell. -/
def ofWord (style : ParamStyle) (word : List Char) : Except Error MarkerKey :=
  match style with
  | .numeric =>
    if maxDigits < word.length then .error (.misuse .numberTooLong)
    else .ok (.position ((Number.Digits.parse? word).getD 0))
  | _ => .ok (.name (String.ofList word))

end MarkerKey

/-- A piece of a statement: a character that stands for itself, or a marker, which is a colon
and a word. -/
inductive Piece
  | plain (c : Char)
  | marker (word : List Char) (key : MarkerKey)
deriving DecidableEq

namespace Piece

/-- The text of a piece. -/
def source : Piece → List Char
  | .plain c => [c]
  | .marker word _ => ':' :: word

/-- The pieces of a statement, of which the rest is given together with whether it starts
inside a literal. A colon outside literals must be followed by a word. -/
def scan (style : ParamStyle) (inLiteral : Bool) : List Char → Except Error (List Piece)
  | [] => .ok []
  | c :: rest =>
    if c = ':' ∧ inLiteral = false then
      let word := rest.takeWhile style.allows
      if word.isEmpty then .error (.interface .invalidMarker)
      else do
        let key ← MarkerKey.ofWord style word
        let pieces ← scan style inLiteral (rest.dropWhile style.allows)
        .ok (.marker word key :: pieces)
    else do
      let pieces ← scan style (if c = '\'' then !inLiteral else inLiteral) rest
      .ok (.plain c :: pieces)
termination_by text => text.length
decreasing_by
  · have := (List.dropWhile_suffix (l := rest) style.allows).length_le
    simp only [List.length_cons]
    omega
  · simp only [List.length_cons]
    omega

/-- The pieces of a statement. -/
def ofStatement (style : ParamStyle) (sql : String) : Except Error (List Piece) :=
  scan style false sql.toList

/-- The pieces make up the statement. -/
theorem source_scan (style : ParamStyle) (inLiteral : Bool) (text : List Char)
    (pieces : List Piece) (h : scan style inLiteral text = .ok pieces) :
    pieces.flatMap source = text := by
  fun_induction scan style inLiteral text generalizing pieces with
  | case1 => cases h; rfl
  | case2 => contradiction
  | case3 inLiteral c rest hc word hword ih =>
    simp only [bind, Except.bind] at h
    split at h
    · contradiction
    split at h
    · contradiction
    next key _ ps hps =>
      cases h
      simp only [List.flatMap_cons, source, ih ps hps, List.cons_append, List.cons.injEq]
      exact ⟨hc.1.symm, List.takeWhile_append_dropWhile⟩
  | case4 inLiteral c rest hc ih =>
    simp only [bind, Except.bind] at h
    split at h
    · contradiction
    next ps hps =>
      cases h
      simp [source, ih ps hps]

end Piece

/-- A marker with its place in the statement, from the colon to behind its word. -/
structure Marker where
  start : Nat
  stop : Nat
  key : MarkerKey
deriving DecidableEq

namespace Marker

/-- The markers among pieces of which the first stands at `place`. -/
def ofPieces (place : Nat) : List Piece → List Marker
  | [] => []
  | .plain _ :: rest => ofPieces (place + 1) rest
  | .marker word key :: rest =>
    let stop := place + 1 + word.length
    ⟨place, stop, key⟩ :: ofPieces stop rest

/-- The markers of a statement, in order. -/
def ofStatement (style : ParamStyle) (sql : String) : Except Error (List Marker) :=
  (Piece.ofStatement style sql).map (ofPieces 0)

end Marker

end TdsClient
