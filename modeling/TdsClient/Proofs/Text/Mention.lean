import TdsClient.Text.Bracketed

/-!
# Texts that mention a word

A text mentions a word if the word stands somewhere in it. When a text is
put together, a word that has none of the characters at the joints stands
in one of the parts. In particular it stands in a quoted name only if it
stands in the name.

## Main definitions

* `Mentions` — a text has a word somewhere.

## Main results

* `infix_append_cons` — a word stands before or after a character it does not have.
* `mentions_quote` — what a quoted name mentions.
-/

namespace TdsClient.Text

/-- A text has a word somewhere. -/
def Mentions (word text : String) : Prop := word.toList <:+: text.toList

instance (word text : String) : Decidable (Mentions word text) :=
  inferInstanceAs (Decidable (word.toList <:+: text.toList))

section

variable {α : Type} {w a b : List α} {c : α}

/-- A word without a character stands before that character or after it. -/
theorem infix_append_cons (hc : c ∉ w) (h : w <:+: a ++ c :: b) : w <:+: a ∨ w <:+: b := by
  obtain ⟨s, t, hsplit⟩ := h
  rcases List.append_eq_append_iff.1 hsplit with ⟨rest, ha, _⟩ | ⟨rest, hrest, hb⟩
  · exact .inl ⟨s, rest, ha.symm⟩
  · cases rest with
    | nil => exact .inl ⟨s, [], by rw [List.append_nil, hrest, List.append_nil]⟩
    | cons x rest =>
        obtain ⟨rfl, rfl⟩ := List.cons.inj hb
        -- the character is not in the word, so the word begins after it
        rcases List.append_eq_append_iff.1 hrest with ⟨before, _, hw⟩ | ⟨before, _, hw⟩
        · exact absurd (hw ▸ List.mem_append_right _ (List.mem_cons_self ..)) hc
        · cases before with
          | nil =>
              have hhead : c ∈ [] ++ w := hw ▸ List.mem_cons_self ..
              exact absurd hhead hc
          | cons y before =>
              obtain ⟨_, rfl⟩ := List.cons.inj hw
              exact .inr ⟨before, t, rfl⟩

/-- A word stands in a joined list only if it stands in an item, or the separator has all of its
characters. -/
theorem infix_intercalate {x y : α} {items : List (List α)} (hx : x ∉ w) (hy : y ∉ w)
    (h : w <:+: [x, y].intercalate items) : w = [] ∨ ∃ item ∈ items, w <:+: item := by
  induction items with
  | nil => exact .inl (List.infix_nil.1 h)
  | cons item rest ih =>
      cases rest with
      | nil =>
          rw [List.intercalate_singleton] at h
          exact .inr ⟨item, List.mem_cons_self .., h⟩
      | cons next rest =>
          rw [List.intercalate_cons_cons] at h
          have hjoint : w <:+: item ++ x :: ([] ++ y :: [x, y].intercalate (next :: rest)) := by
            simpa using h
          rcases infix_append_cons hx hjoint with hitem | hlater
          · exact .inr ⟨item, List.mem_cons_self .., hitem⟩
          · rcases infix_append_cons hy hlater with hnone | hrest
            · exact .inl (List.infix_nil.1 hnone)
            · exact (ih hrest).imp_right fun ⟨found, hfound, hin⟩ =>
                ⟨found, List.mem_cons_of_mem _ hfound, hin⟩

end

/-- A word stands before or after a character of the text that it does not have. -/
theorem Mentions.around {word text : String} {before after : List Char} {c : Char}
    (h : Mentions word text) (hc : c ∉ word.toList) (htext : text.toList = before ++ c :: after) :
    word.toList <:+: before ∨ word.toList <:+: after :=
  infix_append_cons hc (htext ▸ h)

/-- A text without a character of a word does not mention the word. -/
theorem not_mentions_of_not_mem {word text : String} {c : Char} (hc : c ∈ word.toList)
    (htext : c ∉ text.toList) : ¬ Mentions word text :=
  fun h => htext (h.subset hc)

namespace Bracketed

/-- A word without closing brackets begins an escaped name only if it begins the name. -/
theorem prefix_escape {word : List Char} (hword : ']' ∉ word) (name : List Char)
    (h : word <+: escape name) : word <+: name := by
  induction name generalizing word with
  | nil => exact h
  | cons c name ih =>
      cases word with
      | nil => exact List.nil_prefix
      | cons x word =>
          unfold escape at h
          split at h
          · exact absurd (List.cons_prefix_cons.1 h).1 fun heq => hword (heq ▸ List.mem_cons_self ..)
          · obtain ⟨rfl, hrest⟩ := List.cons_prefix_cons.1 h
            exact List.cons_prefix_cons.2 ⟨rfl, ih (fun hin => hword (List.mem_cons_of_mem _ hin)) hrest⟩

/-- A word without closing brackets stands in an escaped name only if it stands in the name. -/
theorem infix_escape {word : List Char} (hword : ']' ∉ word) {name : List Char}
    (h : word <:+: escape name) : word <:+: name := by
  induction name with
  | nil => exact h
  | cons c name ih =>
      unfold escape at h
      split at h
      · rcases infix_append_cons (a := []) hword h with hnone | hlater
        · exact List.infix_nil.1 hnone ▸ List.nil_infix
        · rcases infix_append_cons (a := []) hword hlater with hnone | hrest
          · exact List.infix_nil.1 hnone ▸ List.nil_infix
          · exact List.infix_cons (ih hrest)
      next hc =>
        rcases List.infix_cons_iff.1 h with hprefix | hrest
        · refine (prefix_escape hword (c :: name) ?_).isInfix
          unfold escape
          rw [if_neg hc]
          exact hprefix
        · exact List.infix_cons (ih hrest)

/-- A word without brackets that a quoted name mentions is mentioned by the name. -/
theorem mentions_quote {word name : String} (hopen : '[' ∉ word.toList) (hclose : ']' ∉ word.toList)
    (hword : word.toList ≠ []) (h : Mentions word (quote name)) : Mentions word name := by
  have htext : (quote name).toList = [] ++ '[' :: (escape name.toList ++ [']']) :=
    String.toList_ofList
  rcases h.around hopen htext with hnone | hinside
  · exact absurd (List.infix_nil.1 hnone) hword
  · rcases infix_append_cons hclose hinside with hname | hnone
    · exact infix_escape hclose hname
    · exact absurd (List.infix_nil.1 hnone) hword

end Bracketed

end TdsClient.Text
