/-
This file shows that a directive sets attributes of no other than `data-` names.
-/

import Listings.Directive.Reader
import Listings.Proofs.Markup.Building
import Listings.Proofs.Notices
import Listings.Proofs.Text.Pieces

namespace Listings

open Markup

namespace Directive

theorem toNat_lt_of_isAsciiAlphanumeric {c : Char} (alphanumeric : isAsciiAlphanumeric c = true) :
    c.toNat < 128 := by
  have bounded : ∀ d : Char, d.toNat < 128 → c ≤ d → c.toNat < 128 := fun d small below =>
    Nat.lt_of_le_of_lt (UInt32.le_iff_toNat_le.1 below) small
  simp only [isAsciiAlphanumeric, Text.isDigit, Bool.or_eq_true, Bool.and_eq_true,
    decide_eq_true_iff] at alphanumeric
  rcases alphanumeric with (⟨_, below⟩ | ⟨_, below⟩) | ⟨_, below⟩
  · exact bounded '9' (by decide) below
  · exact bounded 'z' (by decide) below
  · exact bounded 'Z' (by decide) below

theorem isNameChar_of_isAsciiAlphanumeric {c : Char} (alphanumeric : isAsciiAlphanumeric c = true) :
    isNameChar c = true := by
  have allAscii : ∀ code < 128, isAsciiAlphanumeric (Char.ofNat code) = true →
      isNameChar (Char.ofNat code) = true := by decide
  have known := allAscii c.toNat (toNat_lt_of_isAsciiAlphanumeric alphanumeric)
  rw [Char.ofNat_toNat] at known
  exact known alphanumeric

/-- The characters of a `data-` name can all stand in a name. -/
theorem isName_of_isDataName {name : String} (data : isDataName name.toList = true) :
    isName name = true := by
  unfold isDataName at data
  split at data
  · rename_i rest found
    rw [Text.dropStart?_eq_some_iff] at found
    rw [isName, found, Bool.and_eq_true, List.all_append, Bool.and_eq_true]
    refine ⟨rfl, by decide, List.all_eq_true.2 fun c member => ?_⟩
    exact isNameChar_of_isAsciiAlphanumeric (List.all_eq_true.1 data c member)
  · contradiction

/-- Every attribute that the directive sets has a `data-` name. -/
def HasDataNames (directive : Directive) : Prop :=
  ∀ entry ∈ directive.attributes.entries, isDataName entry.1.toList = true

theorem HasDataNames.wellNamed {directive : Directive} (dataNames : directive.HasDataNames) :
    directive.attributes.wellNamed = true :=
  Attributes.wellNamed_iff.2 fun entry member => isName_of_isDataName (dataNames entry member)

/-- A token sets an attribute only if its key is a `data-` name. -/
theorem isDataName_of_ofWord {word name : List Char} {value : Attribute}
    (sets : Token.ofWord word = .setAttribute name value) : isDataName name = true := by
  unfold Token.ofWord at sets
  split at sets
  · contradiction
  · split at sets
    · split at sets
      · cases sets
        assumption
      · contradiction
    · split at sets
      · contradiction
      · split at sets
        · contradiction
        · split at sets
          · contradiction
          · split at sets
            · cases sets
              assumption
            · contradiction

theorem hasDataNames_apply {directive : Directive} (dataNames : directive.HasDataNames)
    (word : List Char) : (apply directive (Token.ofWord word)).value.HasDataNames := by
  cases token : Token.ofWord word with
  | setAttribute name value =>
      intro entry member
      rcases Attributes.mem_insert member with rfl | old
      · rw [String.toList_ofList]
        exact isDataName_of_ofWord token
      · exact dataNames entry old
  | preserveScopes => exact dataNames
  | highlightLines value => exact dataNames
  | showLines value => exact dataNames
  | hideLines value => exact dataNames
  | unhandled notice => exact dataNames

theorem hasDataNames_read (text : String) : (read text).value.HasDataNames := by
  refine Reported.foldlM_keeps ?_ ?_
  · intro token member directive dataNames
    obtain ⟨word, _, rfl⟩ := List.mem_map.1 member
    exact hasDataNames_apply dataNames word
  · intro entry member
    contradiction

/-- What a text asks for, in a block or on a single line. -/
def ofText (raw : String) : Option Nat → Directive
  | none => (read raw).value
  | some line => (read raw).value.withInline line

theorem hasDataNames_ofText (raw : String) (inline : Option Nat) :
    (ofText raw inline).HasDataNames := by
  cases inline <;> exact hasDataNames_read raw

end Directive

end Listings
