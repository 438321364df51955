/-
This file compares a line that is shown alone with the same line in a block.
-/

import Listings.Proofs.Layout.Lines

namespace Listings

open Markup (Element Node)

/-- An element without one of its classes. -/
def Markup.Element.dropClass (name : String) (element : Element) : Element :=
  match element.attribute? "class" with
  | some (.list classes) => element.withClasses (classes.filter (· ≠ name))
  | _ => element

/-- A line that is asked for stands behind the ones before it that are asked for too. -/
theorem Directive.askedIndices_countP (directive : Directive) (block : TokenBlock) {index : Nat}
    (within : index < block.lines.length) (asked : directive.asksFor index = true) :
    (directive.askedIndices block)[(List.range index).countP directive.asksFor]? = some index := by
  -- The lines that are asked for before the index are the first part of a cut there.
  obtain ⟨after, split⟩ := Nat.exists_eq_add_of_lt within
  have range : List.range block.lines.length =
      List.range index ++ index :: (List.range after).map (index + 1 + ·) := by
    rw [split, Nat.add_right_comm, List.range_add, List.range_succ, List.append_assoc]
    rfl
  rw [askedIndices, range, List.filter_append, List.filter_cons_of_pos asked,
    List.countP_eq_length_filter, List.getElem?_append_right (Nat.le_refl _), Nat.sub_self]
  rfl

namespace Layout

variable {preserves : Bool}

/-- Only its mark sets a line apart from the line alone. -/
theorem dropClass_settled_line (palette : Palette) (marked : Bool) (fragments : Line) :
    (settled preserves (line palette marked fragments)).dropClass "highlight-line" =
      settled preserves (line palette false fragments) := by
  have classes : (settled preserves (line palette marked fragments)).attribute? "class" =
      some (.list (lineClasses marked)) :=
    (showsLine palette marked fragments).attributes "class"
  rw [Element.dropClass, classes]
  cases preserves <;> cases marked <;> rfl

theorem unedited_inline {directive : Directive} {index : Nat}
    (isInline : directive.inline = some index) (tokens : TokenBlock) :
    unedited directive tokens = settled directive.preservesScopes (inline index tokens) := by
  rw [unedited_eq_settled, root, isInline]

theorem attribute?_settled_inline (index : Nat) (tokens : TokenBlock) (name : String) :
    (settled preserves (inline index tokens)).attribute? name =
      if name = "class" then some (.list ["shiki", tokens.palette.name]) else none :=
  attribute?_settled_of_classes
    (fun name => Element.attribute?_withAttribute "class" name _ _) name

theorem children_settled_inline (index : Nat) (tokens : TokenBlock) :
    (settled preserves (inline index tokens)).children =
      [(settled preserves
        (line tokens.palette false (tokens.lines[index]?.getD []))).toNode] := by
  have children : (inline index tokens).children =
      [line tokens.palette false (tokens.lines[index]?.getD [])].map Element.toNode :=
    children_inline index tokens
  exact children_settled_of_elements children

variable {σ : Type}

/-- A line that is shown alone is the line that a block shows under the same index, but for its
mark. An index past the end shows an empty line, and nothing else that the directive says of lines
or of attributes matters. -/
theorem inline_shows_line_of_block (directive : Directive) (index : Nat)
    (isInline : directive.inline = some index) (blocks : List TokenBlock) (state : σ) :
    let roots (directive : Directive) : List Element :=
      (format directive ([] : List (EditMaker σ)) blocks state).1
    (roots directive).length = blocks.length ∧
    (∀ (position : Nat) (block : TokenBlock), blocks[position]? = some block →
      ∃ root alone : Element, (roots directive)[position]? = some root ∧ root.tag = "div" ∧
        (∀ name, root.attribute? name =
          if name = "class" then some (.list ["shiki", block.palette.name]) else none) ∧
        root.children = [alone.toNode] ∧
        (index < block.lines.length → ∀ other : Directive, other.inline = none →
          other.preservesScopes = directive.preservesScopes → other.asksFor index = true →
            ∃ code shown : Element, codeAt? other blocks state position = some code ∧
              code.children[(List.range index).countP other.asksFor]? = some shown.toNode ∧
              alone = shown.dropClass "highlight-line") ∧
        (block.lines.length ≤ index → alone.tag = "div" ∧
          (∀ name, alone.attribute? name =
            if name = "class" then some (.list ["line"]) else none) ∧
          alone.children = [.text "\n"])) ∧
    ∀ other : Directive, other.inline = some index →
      other.preservesScopes = directive.preservesScopes → roots other = roots directive := by
  intro roots
  have areRoots (other : Directive) : roots other = blocks.map (unedited other) :=
    congrArg Prod.fst (format_without_makers other blocks state)
  refine ⟨by rw [areRoots, List.length_map], ?_, ?_⟩
  · intro position block found
    refine ⟨settled directive.preservesScopes (inline index block),
      settled directive.preservesScopes (line block.palette false (block.lines[index]?.getD [])),
      ?_, tag_settled, attribute?_settled_inline index block,
      children_settled_inline index block, ?_, ?_⟩
    · rw [areRoots, List.getElem?_map, found, Option.map_some, unedited_inline isInline]
    · intro within other otherIsBlock samePreserved asked
      refine ⟨settledCode other block, lineAt other block index,
        codeAt?_eq_settledCode found otherIsBlock state, ?_, ?_⟩
      · rw [children_settledCode, List.getElem?_map,
          other.askedIndices_countP block within asked, Option.map_some]
      · rw [lineAt, dropClass_settled_line, samePreserved]
    · intro past
      rw [List.getElem?_eq_none past, Option.getD_none]
      have shows : ShowsLine false [] (settled directive.preservesScopes
          (line block.palette false [])) := showsLine block.palette false []
      obtain ⟨tag, attributes, spans, children, same⟩ := shows
      refine ⟨tag, attributes, ?_⟩
      rw [children, List.forall₂_nil_left_iff.1 same]
      rfl
  · intro other otherIsInline samePreserved
    rw [areRoots, areRoots]
    refine List.map_congr_left fun block _ => ?_
    rw [unedited_inline otherIsInline, unedited_inline isInline, samePreserved]

theorem inline_shows_line_of_block_between_hidden :
    let block : TokenBlock := ⟨⟨"dark", "#fff", "#000"⟩, [[], [], [{ content := "a" }]]⟩
    let directive : Directive := { hidden := .insert 1 ∅, highlighted := .insert 2 ∅ }
    ∃ root alone shown : Element,
      (format (directive.withInline 2) ([] : List (EditMaker Unit)) [block] ()).1[0]? = some root ∧
      root.children = [alone.toNode] ∧ alone = shown.dropClass "highlight-line" ∧
      ∃ code, codeAt? directive [block] () 0 = some code ∧
        code.children[1]? = some shown.toNode := by
  intro block directive
  obtain ⟨_, each, _⟩ := inline_shows_line_of_block (directive.withInline 2) 2 rfl [block] ()
  obtain ⟨root, alone, isRoot, _, _, child, inBlock, _⟩ := each 0 block rfl
  have asks : directive.asksFor = fun index => !(index == 1) := by
    funext index
    exact congrArg not (LineSet.contains_insert_empty 1 index)
  obtain ⟨code, shown, isCode, isShown, same⟩ :=
    inBlock (by decide) directive rfl rfl (by rw [asks]; rfl)
  rw [asks] at isShown
  exact ⟨root, alone, shown, isRoot, child, same, code, isCode, isShown⟩

end Layout

end Listings
