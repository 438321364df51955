/-
This file decodes the entities of written markup and shows that decoding undoes escaping.
-/

import Listings.Markup.Html

namespace Listings.Markup

/-- Each of the five entities stands for its character, from left to right. -/
def unescape : List Char → List Char
  | [] => []
  | '&' :: 'a' :: 'm' :: 'p' :: ';' :: rest => '&' :: unescape rest
  | '&' :: 'l' :: 't' :: ';' :: rest => '<' :: unescape rest
  | '&' :: 'g' :: 't' :: ';' :: rest => '>' :: unescape rest
  | '&' :: 'q' :: 'u' :: 'o' :: 't' :: ';' :: rest => '"' :: unescape rest
  | '&' :: '#' :: 'x' :: '2' :: '7' :: ';' :: rest => '\'' :: unescape rest
  | c :: rest => c :: unescape rest

theorem unescape_cons {c : Char} (plain : c ≠ '&') (rest : List Char) :
    unescape (c :: rest) = c :: unescape rest := by
  rw [unescape]
  all_goals
    intros
    simp_all

/-- What is written for one character is read back before anything that follows. -/
theorem unescape_escapeChar (c : Char) (rest : List Char) :
    unescape (escapeChar c ++ rest) = c :: unescape rest := by
  unfold escapeChar
  split
  · rfl
  · rfl
  · rfl
  · rfl
  · rfl
  · rename_i plain _ _ _ _
    exact unescape_cons plain rest

@[simp] theorem escape_nil : escape [] = [] := rfl

@[simp] theorem escape_cons (c : Char) (rest : List Char) :
    escape (c :: rest) = escapeChar c ++ escape rest := rfl

theorem escape_append (first second : List Char) :
    escape (first ++ second) = escape first ++ escape second :=
  List.flatMap_append

theorem unescape_escape (text : List Char) : unescape (escape text) = text := by
  induction text with
  | nil => rfl
  | cons c rest inductionHypothesis =>
      rw [escape_cons, unescape_escapeChar, inductionHypothesis]

theorem escape_injective {first second : List Char} (same : escape first = escape second) :
    first = second := by
  rw [← unescape_escape first, same, unescape_escape]

/-- These characters end a text, a tag or a value where they stand in markup. -/
def isDelimiter (c : Char) : Bool := c == '<' || c == '>' || c == '"' || c == '\''

theorem escapeChar_undelimited (c : Char) :
    ∀ written ∈ escapeChar c, isDelimiter written = false := by
  unfold escapeChar
  split
  · simp [isDelimiter]
  · simp [isDelimiter]
  · simp [isDelimiter]
  · simp [isDelimiter]
  · simp [isDelimiter]
  · rename_i notLess notGreater notQuote notApostrophe
    intro written member
    rw [List.mem_singleton] at member
    simp only [isDelimiter, member, Bool.or_eq_false_iff, beq_eq_false_iff_ne]
    exact ⟨⟨⟨notLess, notGreater⟩, notQuote⟩, notApostrophe⟩

theorem escape_undelimited (text : List Char) :
    ∀ written ∈ escape text, isDelimiter written = false := by
  intro written member
  obtain ⟨c, _, inChar⟩ := List.mem_flatMap.1 member
  exact escapeChar_undelimited c written inChar

/-- Nothing is lost, so only an empty text is written as nothing. -/
theorem escape_eq_nil_iff {text : List Char} : escape text = [] ↔ text = [] := by
  constructor
  · intro nothing
    exact escape_injective (nothing.trans escape_nil.symm)
  · rintro rfl
    exact escape_nil

end Listings.Markup
