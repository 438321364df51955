/-
This file tells the tokens of a directive that decide which lines are shown from those that set
attributes.
-/

import Listings.Proofs.Directive.LastTokens

namespace Listings

open Markup (Attributes)

namespace Directive

variable {directive first second : Directive}

theorem HasDataNames.get?_eq_none (dataNames : directive.HasDataNames) {name : String}
    (other : isDataName name.toList = false) : directive.attributes.get? name = none := by
  rw [Option.eq_none_iff_forall_ne_some]
  intro value found
  have data := dataNames _ ((Attributes.lookup_eq_some_iff directive.attributes.ascending).1 found)
  simp [other] at data

/-- The directives ask for the same lines in the same layout. -/
structure ShowsAlike (first second : Directive) : Prop where
  hidden : second.hidden = first.hidden
  shown : second.shown = first.shown
  highlighted : second.highlighted = first.highlighted
  inline : second.inline = first.inline

theorem ShowsAlike.withInline (alike : ShowsAlike first second) (line : Nat) :
    ShowsAlike (first.withInline line) (second.withInline line) :=
  ⟨alike.hidden, alike.shown, alike.highlighted, rfl⟩

/-- The texts have the same tokens about lines. -/
def SameLineTokens (text other : String) : Prop :=
  ∀ key ∈ ["highlight", "show", "hide"],
    about key.toList (Text.words other.toList) = about key.toList (Text.words text.toList)

/-- No token of the text has a `data-` name for its key. -/
def NamesNoData (text : String) : Prop :=
  ∀ token ∈ Text.words text.toList, isDataName (keyOf token) = false

theorem showsAlike_ofText {text other : String} (same : SameLineTokens text other)
    (inline : Option Nat) : ShowsAlike (ofText text inline) (ofText other inline) := by
  have highlight := lastSetting?_about (by decide) (by decide) (same "highlight" (by decide))
  have shown := lastSetting?_about (by decide) (by decide) (same "show" (by decide))
  have hide := lastSetting?_about (by decide) (by decide) (same "hide" (by decide))
  have alike : ShowsAlike (read text).value (read other).value := by
    constructor
    · rw [value_read, value_read, foldl_hidden, foldl_hidden, hide]
    · rw [value_read, value_read, foldl_shown, foldl_shown, shown]
    · rw [value_read, value_read, foldl_highlighted, foldl_highlighted, highlight]
    · rw [value_read, value_read, foldl_inline, foldl_inline]
  cases inline with
  | none => exact alike
  | some line => exact alike.withInline line

theorem isData_of_get?_ofText {text : String} {inline : Option Nat} {name : String}
    (isSet : ((ofText text inline).attributes.get? name).isSome = true) : IsData name := by
  rw [← isDataName_iff]
  by_contra other
  rw [(hasDataNames_ofText text inline).get?_eq_none (by simpa using other)] at isSet
  contradiction

theorem get?_ofText_eq_none {text : String} (noData : NamesNoData text) (inline : Option Nat)
    (name : String) : (ofText text inline).attributes.get? name = none := by
  have known : (ofText text inline).attributes = (read text).value.attributes := by
    cases inline <;> rfl
  rw [known, value_read, get?_foldl]
  split
  · rename_i data
    have nothing : (Text.words text.toList).filterMap (attribute? name) = [] := by
      rw [List.filterMap_eq_nil_iff]
      intro token member
      rw [← Option.not_isSome_iff_eq_none]
      intro sets
      have isKey := (attribute?_isAbout data token sets).2
      have noName := noData token member
      rw [isKey, data] at noName
      contradiction
    rw [nothing, List.getLast?_nil]
  · rfl

theorem preservesScopes_ofText (text : String) (inline : Option Nat) :
    (ofText text inline).preservesScopes = true ↔
      "preserve-scopes".toList ∈ Text.words text.toList := by
  have known : (ofText text inline).preservesScopes = (read text).value.preservesScopes := by
    cases inline <;> rfl
  rw [known, value_read, foldl_preservesScopes]
  exact or_iff_right Bool.false_ne_true

/-- The text without its tokens about `data-` names. -/
def withoutData (text : String) : String :=
  String.ofList (Text.join [' '] ((Text.words text.toList).filter fun token =>
    !isDataName (keyOf token)))

theorem words_withoutData (text : String) :
    Text.words (withoutData text).toList =
      (Text.words text.toList).filter fun token => !isDataName (keyOf token) := by
  rw [withoutData, String.toList_ofList]
  apply Text.words_join
  intro token member
  exact Text.isWord_of_mem_words (List.mem_filter.1 member).1

theorem sameLineTokens_withoutData (text : String) : SameLineTokens text (withoutData text) := by
  intro key isLineKey
  have noData : isDataName key.toList = false := by
    revert key
    decide
  rw [words_withoutData, about, about, List.filter_filter]
  apply List.filter_congr
  intro token _
  by_cases isKey : keyOf token = key.toList
  · simp [isKey, noData]
  · simp [isKey]

theorem namesNoData_withoutData (text : String) : NamesNoData (withoutData text) := by
  intro token member
  rw [words_withoutData, List.mem_filter] at member
  simpa using member.2

end Directive

end Listings
