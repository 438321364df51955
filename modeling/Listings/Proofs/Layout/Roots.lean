/-
This file compares the roots of a text that is cut into lines with those of a text that stays whole.
-/

import Listings.Proofs.Layout.Attributes

namespace Listings

/-- The directive sets neither the classes nor the style of a root. -/
structure Directive.KeepsLook (directive : Directive) : Prop where
  noClass : directive.attributes.get? "class" = none
  noStyle : directive.attributes.get? "style" = none

/-- A `data-` attribute is neither the class nor the style of a root. -/
theorem Directive.HasDataNames.keepsLook {directive : Directive}
    (dataNames : directive.HasDataNames) : directive.KeepsLook :=
  ⟨dataNames.get?_eq_none (by decide), dataNames.get?_eq_none (by decide)⟩

namespace Layout

open Directive
open Markup (Attributes Element)

variable {σ : Type} {directive : Directive}

theorem tag_unedited (isBlock : directive.inline = none) (tokens : TokenBlock) :
    (unedited directive tokens).tag = "pre" := by
  unfold unedited root
  rw [isBlock]
  split <;> rfl

/-- The scopes of a root go with those of its spans. -/
theorem attribute?_unedited (isBlock : directive.inline = none) (tokens : TokenBlock)
    (name : String) :
    (unedited directive tokens).attribute? name =
      if name = Element.scopeAttribute ∧ directive.preservesScopes = false then none
      else (blockRoot tokens.palette directive).attribute? name := by
  have fresh : (root directive tokens).attribute? name =
      (blockRoot tokens.palette directive).attribute? name := by
    rw [root, isBlock]
    rfl
  unfold unedited
  cases directive.preservesScopes with
  | true => simp [fresh]
  | false => simp [Element.stripScopes, Element.attribute?_eraseEverywhere, fresh]

theorem attribute?_unedited_of_ne (isBlock : directive.inline = none) (tokens : TokenBlock)
    {name : String} (other : name ≠ Element.scopeAttribute) :
    (unedited directive tokens).attribute? name =
      (blockRoot tokens.palette directive).attribute? name := by
  rw [attribute?_unedited isBlock, if_neg fun both => other both.1]

theorem attribute?_unedited_scopes (isBlock : directive.inline = none) (tokens : TokenBlock) :
    (unedited directive tokens).attribute? Element.scopeAttribute =
      if directive.preservesScopes then
        (blockRoot tokens.palette directive).attribute? Element.scopeAttribute
      else none := by
  rw [attribute?_unedited isBlock]
  cases directive.preservesScopes <;> simp

theorem attribute?_blockRoot_eq_ite (keepsLook : directive.KeepsLook) (palette : Palette)
    (name : String) :
    (blockRoot palette directive).attribute? name =
      if name = "class" then some (.list ["shiki", palette.name])
      else if name = "style" then some (.text ("background-color: " ++ palette.background))
      else directive.attributes.get? name := by
  rw [attribute?_blockRoot]
  by_cases isClass : name = "class"
  · subst isClass
    rw [keepsLook.noClass, Option.none_or, if_neg (by decide), if_pos rfl, if_pos rfl]
    rfl
  · by_cases isStyle : name = "style"
    · subst isStyle
      rw [keepsLook.noStyle, Option.none_or, if_pos rfl, if_neg (by decide), if_pos rfl]
    · rw [if_neg isStyle, if_neg isClass, if_neg isClass, if_neg isStyle, Option.or_none]

/-- Only scopes that the directive sets and does not keep make a difference. -/
theorem attributes_unedited_eq_iff (isBlock : directive.inline = none)
    (dataNames : directive.HasDataNames) (text : String) (tokens : TokenBlock) :
    (unedited directive tokens).attributes =
        (plainRoot text directive tokens.palette).attributes ↔
      directive.preservesScopes = true ∨
        directive.attributes.get? Element.scopeAttribute = none := by
  have setScopes : (blockRoot tokens.palette directive).attribute? Element.scopeAttribute =
      directive.attributes.get? Element.scopeAttribute := by
    rw [attribute?_blockRoot_eq_ite dataNames.keepsLook, if_neg (by decide), if_neg (by decide)]
  have scopes := attribute?_unedited_scopes isBlock tokens
  rw [setScopes] at scopes
  constructor
  · intro same
    have sameScopes : (unedited directive tokens).attribute? Element.scopeAttribute =
        (blockRoot tokens.palette directive).attribute? Element.scopeAttribute :=
      congrArg (Attributes.get? · Element.scopeAttribute) same
    rw [scopes, setScopes] at sameScopes
    cases kept : directive.preservesScopes with
    | true => exact .inl rfl
    | false => simp_all
  · intro either
    apply Attributes.ext_get?
    intro name
    change (unedited directive tokens).attribute? name =
      (blockRoot tokens.palette directive).attribute? name
    by_cases isScope : name = Element.scopeAttribute
    · rw [isScope, scopes, setScopes]
      obtain kept | unset := either
      · rw [if_pos kept]
      · rw [unset, ite_self]
    · exact attribute?_unedited_of_ne isBlock tokens isScope

theorem get?_read_eq_none_iff {text name : String} (data : IsData name) :
    (read text).value.attributes.get? name = none ↔
      ∀ token ∈ Text.words text.toList, keyOf token ≠ name.toList := by
  rw [← Option.not_isSome_iff_eq_none, value_read, get?_isSome_iff, and_iff_right data]
  simp only [← attribute?_isSome_iff, ← keyOf_eq_iff data.no_equals, not_exists, not_and]

/-- Under the same directive, roots of a text that is cut into lines have the tag and the attributes
of those of a text that stays whole, but for one name: a directive that sets the scopes sets them in
vain where lines are cut and scopes are not kept. -/
theorem roots_have_same_attributes_but_scopes (raw text : String) (blocks : List TokenBlock)
    (state : σ) :
    let directive := (read raw).value
    let tokens := Text.words raw.toList
    let cut := (format directive ([] : List (EditMaker σ)) blocks state).1
    let whole := plain text (blocks.map TokenBlock.palette) directive
    cut.length = blocks.length ∧ whole.length = blocks.length ∧
    ∀ (index : Nat) (block : TokenBlock), blocks[index]? = some block →
      ∃ first second, cut[index]? = some first ∧ whole[index]? = some second ∧
        first.tag = "pre" ∧ second.tag = "pre" ∧
        (∀ name, second.attribute? name =
          if name = "class" then some (.list ["shiki", block.palette.name])
          else if name = "style" then
            some (.text ("background-color: " ++ block.palette.background))
          else directive.attributes.get? name) ∧
        (∀ name, name ≠ "data-scope" → first.attribute? name = second.attribute? name) ∧
        first.attribute? "data-scope" =
          (if "preserve-scopes".toList ∈ tokens then second.attribute? "data-scope" else none) ∧
        (first.attributes = second.attributes ↔ "preserve-scopes".toList ∈ tokens ∨
          ∀ token ∈ tokens, keyOf token ≠ "data-scope".toList) := by
  intro directive tokens cut whole
  have cutEq : cut = blocks.map (unedited directive) := by
    dsimp only [cut]
    rw [format_without_makers]
  have wholeEq : whole = blocks.map fun block => plainRoot text directive block.palette :=
    List.map_map
  have isBlock : directive.inline = none := by
    dsimp only [directive]
    rw [value_read, foldl_inline]
  have preserves : directive.preservesScopes = true ↔ "preserve-scopes".toList ∈ tokens :=
    preservesScopes_ofText raw none
  have dataNames : directive.HasDataNames := hasDataNames_read raw
  have noScopes : directive.attributes.get? "data-scope" = none ↔
      ∀ token ∈ tokens, keyOf token ≠ "data-scope".toList :=
    get?_read_eq_none_iff (isDataName_iff.1 (by decide))
  refine ⟨by simp [cutEq], by simp [wholeEq], ?_⟩
  intro index block found
  refine ⟨unedited directive block, plainRoot text directive block.palette, ?_, ?_,
    tag_unedited isBlock block, rfl, ?_, ?_, ?_, ?_⟩
  · rw [cutEq, List.getElem?_map, found, Option.map_some]
  · rw [wholeEq, List.getElem?_map, found, Option.map_some]
  · intro name
    exact attribute?_blockRoot_eq_ite dataNames.keepsLook block.palette name
  · intro name other
    exact attribute?_unedited_of_ne isBlock block other
  · have scopes := attribute?_unedited_scopes isBlock block
    simp only [preserves] at scopes
    exact scopes
  · rw [attributes_unedited_eq_iff isBlock dataNames, preserves]
    exact or_congr_right noScopes

/-- A directive that sets the scopes of a block sets them only where the text stays whole. -/
theorem scopes_of_directive_are_lost_where_lines_are_cut :
    let directive := (read "data-scope=x").value
    let block : TokenBlock := ⟨⟨"dark", "#fff", "#000"⟩, []⟩
    ((format directive ([] : List (EditMaker Unit)) [block] ()).1.map
      (·.attribute? "data-scope")) = [none] ∧
    (plain "" [block.palette] directive).map (·.attribute? "data-scope") =
      [some (.text "x")] := by
  decide

theorem roots_have_same_attributes_but_scopes_of_flag :
    let directive := (read "data-scope data-a=1").value
    let block : TokenBlock := ⟨⟨"dark", "#fff", "#000"⟩, []⟩
    ∃ first second, (format directive ([] : List (EditMaker Unit)) [block] ()).1[0]? = some first ∧
      (plain "" [block.palette] directive)[0]? = some second ∧
      first.attribute? "data-a" = some (.text "1") ∧ first.attribute? "data-scope" = none ∧
      second.attribute? "data-scope" = some (.flag true) ∧
      first.attributes ≠ second.attributes := by
  intro directive block
  obtain ⟨_, _, roots⟩ := roots_have_same_attributes_but_scopes "data-scope data-a=1" "" [block] ()
  obtain ⟨first, second, isFirst, isSecond, _, _, sets, others, scopes, same⟩ := roots 0 block rfl
  have setA : (read "data-scope data-a=1").value.attributes.get? "data-a" = some (.text "1") := by
    decide
  have setScope : (read "data-scope data-a=1").value.attributes.get? "data-scope" =
      some (.flag true) := by
    decide
  refine ⟨first, second, isFirst, isSecond, ?_, ?_, ?_, ?_⟩
  · rw [others "data-a" (by decide), sets, if_neg (by decide), if_neg (by decide), setA]
  · rw [scopes, if_neg (by decide)]
  · rw [sets, if_neg (by decide), if_neg (by decide), setScope]
  · rw [ne_eq, same]
    decide

end Layout

end Listings
