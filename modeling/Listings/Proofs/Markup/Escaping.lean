/-
This file says which texts are escaped and shows that each text has exactly one escaped form.
-/

import Listings.Proofs.Markup.Entity
import Mathlib.Data.List.Infix

namespace Listings.Markup

/-- All entities that are written. -/
def entities : List (List Char) :=
  ["&amp;", "&lt;", "&gt;", "&quot;", "&#x27;"].map String.toList

/-- No character ends what the text stands in, and every ampersand starts an entity. -/
structure IsEscaped (written : List Char) : Prop where
  undelimited : ∀ c ∈ written, isDelimiter c = false
  ampersands : ∀ after, '&' :: after <:+ written → ∃ entity ∈ entities, entity <+: '&' :: after

/-- An ampersand and the delimiters are written as entities, and all else as it is. -/
theorem escapeChar_cases (c : Char) :
    (c = '&' ∨ isDelimiter c = true) ∧ escapeChar c ∈ entities ∨
      c ≠ '&' ∧ escapeChar c = [c] := by
  unfold escapeChar
  split
  · exact Or.inl (by decide)
  · exact Or.inl (by decide)
  · exact Or.inl (by decide)
  · exact Or.inl (by decide)
  · exact Or.inl (by decide)
  · rename_i notAmpersand _ _ _ _
    exact Or.inr ⟨notAmpersand, rfl⟩

theorem exists_escapeChar_of_mem {entity : List Char} (member : entity ∈ entities) :
    ∃ c, escapeChar c = entity := by
  have written : entities = ['&', '<', '>', '"', '\''].map escapeChar := rfl
  rw [written, List.mem_map] at member
  obtain ⟨c, _, isEntity⟩ := member
  exact ⟨c, isEntity⟩

theorem escapeChar_ne_nil (c : Char) : escapeChar c ≠ [] := by
  rcases escapeChar_cases c with ⟨_, isEntity⟩ | ⟨_, single⟩
  · have visible : ∀ entity ∈ entities, entity ≠ [] := by decide
    exact visible _ isEntity
  · rw [single]
    exact List.cons_ne_nil c []

/-- An ampersand only comes first, and in an entity. -/
theorem ampersand_of_escapeChar {c : Char} {before after : List Char}
    (isThere : escapeChar c = before ++ '&' :: after) : before = [] ∧ escapeChar c ∈ entities := by
  rcases escapeChar_cases c with ⟨_, isEntity⟩ | ⟨notAmpersand, single⟩
  · have first : ∀ entity ∈ entities, '&' ∉ entity.tail := by decide
    refine ⟨?_, isEntity⟩
    cases before with
    | nil => rfl
    | cons head more =>
        refine absurd ?_ (first _ isEntity)
        rw [isThere, List.cons_append, List.tail_cons]
        exact List.mem_append_right more List.mem_cons_self
  · have member : '&' ∈ [c] := by
      rw [← single, isThere]
      exact List.mem_append_right before List.mem_cons_self
    exact absurd (List.mem_singleton.1 member).symm notAmpersand

namespace IsEscaped

variable {written rest : List Char}

theorem nil : IsEscaped [] where
  undelimited := nofun
  ampersands _ isThere := absurd (List.suffix_nil.1 isThere) (List.cons_ne_nil _ _)

theorem of_append {front : List Char} (escaped : IsEscaped (front ++ rest)) : IsEscaped rest where
  undelimited c member := escaped.undelimited c (List.mem_append_right front member)
  ampersands after isThere :=
    escaped.ampersands after (isThere.trans (List.suffix_append front rest))

theorem escapeChar_append (escaped : IsEscaped rest) (c : Char) :
    IsEscaped (escapeChar c ++ rest) := by
  constructor
  · intro other member
    rcases List.mem_append.1 member with inChar | inRest
    · exact escapeChar_undelimited c other inChar
    · exact escaped.undelimited other inRest
  · rintro after ⟨before, whole⟩
    -- The ampersand stands in what is written for the character, or in the rest.
    rcases List.append_eq_append_iff.1 whole with ⟨inner, isChar, isAfter⟩ | ⟨between, _, isRest⟩
    · cases inner with
      | nil => exact escaped.ampersands after ⟨[], isAfter⟩
      | cons head inner =>
          obtain ⟨rfl, isAfter⟩ := List.cons.inj isAfter
          obtain ⟨rfl, isEntity⟩ := ampersand_of_escapeChar isChar
          refine ⟨escapeChar c, isEntity, rest, ?_⟩
          rw [isChar, isAfter, List.nil_append, List.cons_append]
    · exact escaped.ampersands after ⟨between, isRest.symm⟩

/-- An escaped text that is not empty starts with what is written for one character. -/
theorem exists_escapeChar (escaped : IsEscaped written) (visible : written ≠ []) :
    ∃ c rest, written = escapeChar c ++ rest := by
  obtain ⟨head, rest, rfl⟩ := List.exists_cons_of_ne_nil visible
  rcases escapeChar_cases head with ⟨rfl | delimits, _⟩ | ⟨_, single⟩
  · obtain ⟨entity, isEntity, after, starts⟩ := escaped.ampersands rest List.suffix_rfl
    obtain ⟨c, rfl⟩ := exists_escapeChar_of_mem isEntity
    exact ⟨c, after, starts.symm⟩
  · rw [escaped.undelimited head List.mem_cons_self] at delimits
    contradiction
  · exact ⟨head, rest, by rw [single, List.singleton_append]⟩

theorem exists_escape (escaped : IsEscaped written) : ∃ text, escape text = written := by
  -- The induction is on the length, as a character may be written as an entity.
  induction length : written.length using Nat.strong_induction_on generalizing written with
  | _ count inductionHypothesis =>
      by_cases visible : written = []
      · exact ⟨[], visible.symm⟩
      · obtain ⟨c, rest, rfl⟩ := escaped.exists_escapeChar visible
        have shorter : rest.length < count := by
          have := List.length_pos_of_ne_nil (escapeChar_ne_nil c)
          rw [← length, List.length_append]
          omega
        obtain ⟨text, rfl⟩ := inductionHypothesis rest.length shorter escaped.of_append rfl
        exact ⟨c :: text, escape_cons c text⟩

end IsEscaped

theorem isEscaped_escape (text : List Char) : IsEscaped (escape text) := by
  induction text with
  | nil => exact IsEscaped.nil
  | cons c rest inductionHypothesis => exact inductionHypothesis.escapeChar_append c

theorem eq_escape_iff {text written : List Char} :
    written = escape text ↔ IsEscaped written ∧ unescape written = text := by
  constructor
  · rintro rfl
    exact ⟨isEscaped_escape text, unescape_escape text⟩
  · rintro ⟨escaped, rfl⟩
    obtain ⟨text, rfl⟩ := escaped.exists_escape
    rw [unescape_escape]

/-- What is written for a text has no delimiter, its ampersands start entities, and it is read back
as the text. Nothing else is like that, no two texts are written alike, and a text is written part
by part. -/
theorem escape_is_only_escaped_form (text : List Char) :
    (∀ written, written = escape text ↔ IsEscaped written ∧ unescape written = text) ∧
    (∀ other, escape other = escape text ↔ other = text) ∧
    ∀ more, escape (text ++ more) = escape text ++ escape more :=
  ⟨fun _ => eq_escape_iff, fun _ => ⟨escape_injective, congrArg escape⟩, escape_append text⟩

/-- Text that looks like an entity is not taken for one. -/
example : escape "&lt; <".toList = "&amp;lt; &lt;".toList ∧
    unescape "&amp;lt; &lt;".toList = "&lt; <".toList := by decide

end Listings.Markup
