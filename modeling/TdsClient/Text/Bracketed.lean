/-!
# Bracketed identifiers

A name between brackets, in which a closing bracket is written twice. Any
text is a name.

## Main definitions

* `quote` — a name between brackets.
* `unquote?` — reads one, with what follows it.

## Main results

* `unescape?_escape_append` — reading the inside of a quoted name gives
  the name and leaves what follows, unless that continues the name.
-/

namespace TdsClient.Text.Bracketed

/-- The inside of a quoted name. -/
def escape : List Char → List Char
  | [] => []
  | c :: rest => if c = ']' then ']' :: ']' :: escape rest else c :: escape rest

/-- A name between brackets. -/
def quote (name : String) : String :=
  String.ofList ('[' :: (escape name.toList ++ [']']))

/-- Reads the inside of a quoted name up to a closing bracket that stands alone. -/
def unescape? : List Char → Option (List Char × List Char)
  | [] => none
  | ']' :: ']' :: rest => (unescape? rest).map fun (name, rest) => (']' :: name, rest)
  | c :: rest =>
    if c = ']' then some ([], rest)
    else (unescape? rest).map fun (name, rest) => (c :: name, rest)

/-- Reads a quoted name and gives what follows it. -/
def unquote? : List Char → Option (List Char × List Char)
  | '[' :: rest => unescape? rest
  | _ => none

/-- Reading the inside of a quoted name stops at its end, unless another bracket follows. -/
theorem unescape?_escape_append (name rest : List Char) (h : rest.head? ≠ some ']') :
    unescape? (escape name ++ ']' :: rest) = some (name, rest) := by
  induction name with
  | nil =>
    cases rest with
    | nil => simp [escape, unescape?]
    | cons c rest =>
      have hc : c ≠ ']' := by simpa using h
      simp [escape, unescape?, hc]
  | cons c name ih =>
    by_cases hc : c = ']'
    · subst hc
      simp [escape, unescape?, ih]
    · simp [escape, unescape?, hc, ih]

end TdsClient.Text.Bracketed
