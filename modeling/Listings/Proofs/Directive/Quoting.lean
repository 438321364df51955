/-
This file says which values come back from a directive as they were written, in quotes and without.
-/

import Listings.Proofs.Directive.LastTokens
import Listings.Proofs.Text.Blanks

namespace Listings

open Markup (Attribute)

namespace Directive

/-- The text is another one between two quotes of one kind. -/
def IsQuoted (text inner : List Char) : Prop :=
  ∃ quote, (quote = '"' ∨ quote = '\'') ∧ text = quote :: inner ++ [quote]

variable {value inner : List Char}

theorem IsQuoted.ne (quoted : IsQuoted value inner) : inner ≠ value := by
  obtain ⟨quote, _, rfl⟩ := quoted
  intro same
  have longer := congrArg List.length same
  rw [List.length_append, List.length_cons, List.length_singleton] at longer
  omega

theorem IsQuoted.unquote_eq (quoted : IsQuoted value inner) : unquote value = inner := by
  obtain ⟨quote, isQuote, rfl⟩ := quoted
  exact unquote_of_quoted isQuote inner

/-- Exactly the values in quotes lose something. -/
theorem unquote_eq_self_iff : unquote value = value ↔ ¬ ∃ inner, IsQuoted value inner := by
  constructor
  · rintro kept ⟨inner, quoted⟩
    exact quoted.ne (quoted.unquote_eq.symm.trans kept)
  · intro unquoted
    exact unquote_of_not_quoted fun quote inner isQuote same =>
      unquoted ⟨inner, quote, isQuote, same⟩

theorem IsData.isWord {name : String} (data : IsData name) : Text.IsWord name.toList := by
  constructor
  · obtain ⟨rest, whole, _⟩ := data
    rw [whole]
    exact List.cons_ne_nil _ _
  · intro c member
    have named := Markup.all_of_isName (isName_of_isDataName (isDataName_iff.2 data)) c member
    simp only [Markup.isNameChar, Bool.not_eq_true', Bool.or_eq_false_iff] at named
    exact named.1

theorem toList_setting (name written : String) :
    (name ++ "=" ++ written).toList = name.toList ++ '=' :: written.toList := by
  simp

theorem isWord_setting {name : String} {written : List Char} (data : IsData name)
    (unbroken : ∀ c ∈ written, Text.isBlank c = false) :
    Text.IsWord (name.toList ++ '=' :: written) := by
  obtain ⟨nonempty, visible⟩ := data.isWord
  refine ⟨List.append_ne_nil_of_left_ne_nil nonempty _, ?_⟩
  rw [List.forall_mem_append, List.forall_mem_cons]
  exact ⟨visible, by decide, unbroken⟩

/-- The last setting of an attribute decides it, whatever is around it. -/
theorem get?_read_setting {name before after : String} (written : String) (data : IsData name)
    (begins : ∀ c ∈ before.toList.getLast?, Text.isBlank c = true)
    (ends : ∀ c ∈ after.toList.head?, Text.isBlank c = true)
    (isLast : ∀ later ∈ Text.words after.toList, keyOf later ≠ name.toList)
    (unbroken : ∀ c ∈ written.toList, Text.isBlank c = false) :
    (read (before ++ (name ++ "=" ++ written) ++ after)).value.attributes.get? name =
      some (.text (String.ofList (unquote written.toList))) := by
  have tokens : Text.words (before ++ (name ++ "=" ++ written) ++ after).toList =
      Text.words before.toList ++ (name.toList ++ '=' :: written.toList) ::
        Text.words after.toList := by
    rw [String.toList_append, String.toList_append, toList_setting, List.append_assoc,
      Text.words_append_word_append (isWord_setting data unbroken) begins ends]
  rw [value_read, tokens]
  apply get?_foldl_of_last data isLast
  rw [attribute?_append data.no_equals _ data.no_equals, if_pos rfl]

/-- A value without blanks comes back as it is from between quotes of either kind. Without them it
comes back unless it is in quotes of its own, of which it loses one pair. -/
theorem value_in_quotes_is_kept (name value before after : String) (data : IsData name)
    (unbroken : ∀ c ∈ value.toList, Text.isBlank c = false)
    (begins : ∀ c ∈ before.toList.getLast?, Text.isBlank c = true)
    (ends : ∀ c ∈ after.toList.head?, Text.isBlank c = true)
    (isLast : ∀ later ∈ Text.words after.toList, keyOf later ≠ name.toList) :
    let given := fun written : String =>
      (read (before ++ (name ++ "=" ++ written) ++ after)).value.attributes.get? name
    given ("\"" ++ value ++ "\"") = some (.text value) ∧
    given ("'" ++ value ++ "'") = some (.text value) ∧
    (given value = some (.text value) ↔ ¬ ∃ inner, IsQuoted value.toList inner) ∧
    ∀ inner, IsQuoted value.toList inner → given value = some (.text (String.ofList inner)) := by
  intro given
  have inQuotes : ∀ quote, quote = '"' ∨ quote = '\'' → ∀ written : String,
      written.toList = quote :: value.toList ++ [quote] → given written = some (.text value) := by
    intro quote isQuote written whole
    have visible : Text.isBlank quote = false := by
      rcases isQuote with rfl | rfl <;> decide
    have setting := get?_read_setting written data begins ends isLast (by
      rw [whole, List.cons_append, List.forall_mem_cons, List.forall_mem_append]
      exact ⟨visible, unbroken, List.forall_mem_singleton.2 visible⟩)
    rwa [whole, unquote_of_quoted isQuote, String.ofList_toList] at setting
  have bare : given value = some (.text (String.ofList (unquote value.toList))) :=
    get?_read_setting value data begins ends isLast unbroken
  refine ⟨inQuotes '"' (.inl rfl) _ (by simp), inQuotes '\'' (.inr rfl) _ (by simp), ?_, ?_⟩
  · rw [bare, ← unquote_eq_self_iff, Option.some.injEq, Attribute.text.injEq, ← String.toList_inj,
      String.toList_ofList]
  · intro inner quoted
    rw [bare, quoted.unquote_eq]

theorem value_in_quotes_is_kept_of_quoted_value :
    let given := fun written : String =>
      (read ("data-x=1 hide=[2]\t" ++ ("data-x" ++ "=" ++ written) ++
        "\u3000data-xy data=x")).value.attributes.get? "data-x"
    given "\"'=\"<&]'\"" = some (.text "'=\"<&]'") ∧
    given "''=\"<&]''" = some (.text "'=\"<&]'") ∧
    given "'=\"<&]'" = some (.text "=\"<&]") := by
  intro given
  have data : IsData "data-x" := isDataName_iff.1 (by decide)
  have others : ∀ later ∈ Text.words "\u3000data-xy data=x".toList,
      keyOf later ≠ "data-x".toList := by
    decide
  have unbroken : "'=\"<&]'".toList.all (fun c => !Text.isBlank c) = true := by decide
  have last : "data-x=1 hide=[2]\t".toList.getLast? = some '\t' := by decide
  have first : "\u3000data-xy data=x".toList.head? = some '\u3000' := by decide
  obtain ⟨double, single, _, bare⟩ := value_in_quotes_is_kept "data-x" "'=\"<&]'"
    "data-x=1 hide=[2]\t" "\u3000data-xy data=x" data (by simpa using unbroken)
    (by rw [last]; rintro _ ⟨⟩; decide) (by rw [first]; rintro _ ⟨⟩; decide) others
  exact ⟨double, single, bare "=\"<&]".toList ⟨'\'', .inr rfl, by decide⟩⟩

end Directive

end Listings
