/-
This file shows that a block holds one element for each line that is asked for, in the order of the
lines and under their indices in the whole text.
-/

import Listings.Proofs.Layout.Text
import Listings.Proofs.LineSet.Coverage
import Mathlib.Data.List.Forall2

namespace Listings

open Markup (Attribute Attributes Element Node)

namespace Directive

/-- The line is in the set to show, if there is one, and not in the set to hide. -/
def asksFor (directive : Directive) (index : Nat) : Bool :=
  directive.shown.all (·.contains index) && !directive.hidden.contains index

/-- The lines of a block that are asked for, in ascending order. -/
def askedIndices (directive : Directive) (block : TokenBlock) : List Nat :=
  (List.range block.lines.length).filter directive.asksFor

theorem isVisible_eq_asksFor (directive : Directive) : directive.isVisible = directive.asksFor := by
  funext index
  unfold isVisible asksFor
  cases directive.shown <;> rfl

end Directive

namespace Layout

/-- An element as the formatter leaves it, which keeps scopes only if they are to stay. -/
def settled (preserves : Bool) (element : Element) : Element :=
  if preserves then element else element.stripScopes

theorem unedited_eq_settled (directive : Directive) (tokens : TokenBlock) :
    unedited directive tokens = settled directive.preservesScopes (root directive tokens) := rfl

variable {preserves : Bool} {element : Element}

@[simp] theorem tag_settled : (settled preserves element).tag = element.tag := by
  cases preserves <;> rfl

theorem find?_settled (tag : String) :
    (settled preserves element).find? tag = (element.find? tag).map (settled preserves) := by
  cases preserves with
  | true => exact Option.map_id'.symm
  | false => exact Element.find?_eraseEverywhere _ tag element

/-- The formatter leaves the elements below as it leaves the one above them. -/
theorem children_settled {elements : List Element} {texts : List String}
    (known : element.children = elements.map Element.toNode ++ texts.map Node.text) :
    (settled preserves element).children =
      (elements.map (settled preserves)).map Element.toNode ++ texts.map Node.text := by
  cases preserves with
  | true =>
      have kept : elements.map (settled true) = elements := List.map_id' elements
      rw [kept]
      exact known
  | false =>
      change Markup.Forest.eraseAttribute Element.scopeAttribute element.children = _
      rw [known, Markup.Forest.eraseAttribute_eq_map, List.map_append, List.map_map, List.map_map,
        List.map_map]
      rfl

theorem children_settled_of_elements {elements : List Element}
    (known : element.children = elements.map Element.toNode) :
    (settled preserves element).children =
      (elements.map (settled preserves)).map Element.toNode := by
  have noTexts : element.children =
      elements.map Element.toNode ++ ([] : List String).map Node.text :=
    known.trans (List.append_nil _).symm
  exact (children_settled noTexts).trans (List.append_nil _)

theorem attribute?_settled_of_ne {name : String} (other : name ≠ Element.scopeAttribute) :
    (settled preserves element).attribute? name = element.attribute? name := by
  cases preserves with
  | true => rfl
  | false => exact (Element.attribute?_eraseEverywhere ..).trans (if_neg other)

/-- An element with nothing but classes has no scopes to lose. -/
theorem attribute?_settled_of_classes {classes : List String}
    (only : ∀ name, element.attribute? name =
      if name = "class" then some (.list classes) else none) (name : String) :
    (settled preserves element).attribute? name =
      if name = "class" then some (.list classes) else none := by
  rw [← only]
  cases preserves with
  | true => rfl
  | false =>
      refine (Element.attribute?_eraseEverywhere ..).trans ?_
      split
      · rename_i isScope
        rw [isScope, only, if_neg (by decide)]
      · rfl

/-- The element holds one span for each fragment, in its own color or else in that of the palette,
and then a newline. -/
def ShowsIn (palette : Palette) (fragments : Line) (element : Element) : Prop :=
  ∃ spans : List Element,
    element.children = spans.map Element.toNode ++ [.text "\n"] ∧
    List.Forall₂ (fun fragment span => span.tag = "span" ∧
        span.children = [.text fragment.content] ∧
        span.attribute? "style" = some (.text ("; ".intercalate
          (("color: " ++ fragment.color.getD palette.foreground) ::
            declarations fragment.style))))
      fragments spans

theorem attribute?_style_span (palette : Palette) (fragment : Fragment) :
    (span palette fragment).attribute? "style" = some (.text (spanStyle palette fragment)) := by
  unfold span withScopeText
  split
  · exact (Element.attribute?_withAttribute ..).trans (if_neg (by decide))
  · rfl

theorem showsIn_line (palette : Palette) (marked : Bool) (fragments : Line) :
    ShowsIn palette fragments (settled preserves (line palette marked fragments)) := by
  have children : (line palette marked fragments).children =
      (fragments.map (span palette)).map Element.toNode ++ ["\n"].map Node.text := by
    rw [children_line, List.map_map]
    rfl
  refine ⟨(fragments.map (span palette)).map (settled preserves), children_settled children, ?_⟩
  rw [List.map_map, List.forall₂_map_right_iff, List.forall₂_same]
  intro fragment _
  have content : (span palette fragment).children =
      ([] : List Element).map Element.toNode ++ [fragment.content].map Node.text :=
    children_span palette fragment
  refine ⟨tag_settled.trans (tag_span palette fragment), children_settled content, ?_⟩
  exact (attribute?_settled_of_ne (by decide)).trans (attribute?_style_span palette fragment)

/-- The element has the classes of a line, one span for each fragment, and then a newline. -/
structure ShowsLine (marked : Bool) (fragments : Line) (element : Element) : Prop where
  tag : element.tag = "div"
  attributes : ∀ name, element.attribute? name =
    if name = "class" then some (.list (if marked then ["line", "highlight-line"] else ["line"]))
    else none
  children : ∃ spans : List Element,
    element.children = spans.map Element.toNode ++ [.text "\n"] ∧
    List.Forall₂ (fun fragment span => span.tag = "span" ∧ span.children = [.text fragment.content])
      fragments spans

variable (directive : Directive) (tokens : TokenBlock)

theorem showsLine (palette : Palette) (marked : Bool) (fragments : Line) :
    ShowsLine marked fragments (settled preserves (line palette marked fragments)) := by
  refine ⟨tag_settled, attribute?_settled_of_classes fun name => ?_, ?_⟩
  · exact Element.attribute?_withAttribute "class" name _ _
  · have inPalette : ShowsIn palette fragments (settled preserves (line palette marked fragments)) :=
      showsIn_line palette marked fragments
    obtain ⟨spans, children, shows⟩ := inPalette
    exact ⟨spans, children, shows.imp fun _ _ shown => ⟨shown.1, shown.2.1⟩⟩

/-- The line of a block under its index in the whole text. -/
def lineAt (index : Nat) : Element :=
  settled directive.preservesScopes
    (line tokens.palette (directive.isHighlighted index) (tokens.lines[index]?.getD []))

theorem children_cutCode : (cutCode directive tokens).children =
    ((directive.askedIndices tokens).map fun index =>
      line tokens.palette (directive.isHighlighted index)
        (tokens.lines[index]?.getD [])).map Element.toNode := by
  rw [List.map_map, Directive.askedIndices, ← Directive.isVisible_eq_asksFor]
  change (visibleLines directive tokens.lines).map _ = _
  rw [visibleLines_eq, List.map_map]
  rfl

/-- The code as the formatter leaves it. -/
def settledCode : Element := settled directive.preservesScopes (cutCode directive tokens)

theorem children_settledCode : (settledCode directive tokens).children =
    (directive.askedIndices tokens).map fun index => (lineAt directive tokens index).toNode := by
  rw [settledCode, children_settled_of_elements (children_cutCode directive tokens), List.map_map,
    List.map_map]
  rfl

variable {directive tokens}

theorem find?_unedited (isBlock : directive.inline = none) :
    (unedited directive tokens).find? "code" = some (settledCode directive tokens) := by
  have fresh : (root directive tokens).find? "code" = some (cutCode directive tokens) := by
    rw [root, isBlock]
    rfl
  rw [unedited_eq_settled, find?_settled, fresh, Option.map_some, settledCode]

/-- Only what a directive says about the lines of a block makes a difference to it. -/
theorem cutCode_eq_of_lines {other : Directive}
    (asked : ∀ index < tokens.lines.length, other.asksFor index = directive.asksFor index)
    (marked : ∀ index < tokens.lines.length,
      other.isHighlighted index = directive.isHighlighted index) :
    cutCode other tokens = cutCode directive tokens := by
  have sameIndices : other.askedIndices tokens = directive.askedIndices tokens :=
    List.filter_congr fun index member => asked index (List.mem_range.1 member)
  have children : (cutCode other tokens).children = (cutCode directive tokens).children := by
    rw [children_cutCode, children_cutCode, sameIndices]
    refine congrArg (List.map Element.toNode) (List.map_congr_left fun index member => ?_)
    rw [marked index (List.mem_range.1 (List.mem_filter.1 member).1)]
  exact congrArg (Element.mk "code" ∅) children

variable {σ : Type}

/-- The code in the root of one block, where no edits follow. -/
def codeAt? (directive : Directive) (blocks : List TokenBlock) (state : σ) (position : Nat) :
    Option Element :=
  (format directive ([] : List (EditMaker σ)) blocks state).1[position]?.bind (·.find? "code")

theorem codeAt?_eq_settledCode {blocks : List TokenBlock} {position : Nat}
    (found : blocks[position]? = some tokens) (isBlock : directive.inline = none) (state : σ) :
    codeAt? directive blocks state position = some (settledCode directive tokens) := by
  rw [codeAt?, format_without_makers, List.getElem?_map, found]
  exact find?_unedited isBlock

/-- The code of a block has one element for each line that is asked for, in the order of the lines,
and each line is asked for, and marked, under its index in the whole block. So a line stays as it is
where others are hidden, and nothing that is said of indices past the end matters. -/
theorem code_shows_lines_under_their_indices (directive : Directive)
    (isBlock : directive.inline = none) (blocks : List TokenBlock) (state : σ) (position : Nat)
    (block : TokenBlock) (found : blocks[position]? = some block) :
    ∃ code, codeAt? directive blocks state position = some code ∧
      List.Forall₂ (fun index child => ∃ fragments element, block.lines[index]? = some fragments ∧
          child = element.toNode ∧
          ShowsLine (directive.highlighted.contains index) fragments element)
        (directive.askedIndices block) code.children ∧
      ∀ other : Directive, other.inline = none → other.preservesScopes = directive.preservesScopes →
        (other.highlighted = directive.highlighted →
          ∃ otherCode, codeAt? other blocks state position = some otherCode ∧
            ∀ index first second : Nat, (directive.askedIndices block)[first]? = some index →
              (other.askedIndices block)[second]? = some index →
                otherCode.children[second]? = code.children[first]?) ∧
        ((∀ index < block.lines.length, other.asksFor index = directive.asksFor index ∧
            other.highlighted.contains index = directive.highlighted.contains index) →
          codeAt? other blocks state position = some code) := by
  refine ⟨settledCode directive block, codeAt?_eq_settledCode found isBlock state, ?_, ?_⟩
  · rw [children_settledCode, List.forall₂_map_right_iff, List.forall₂_same]
    intro index member
    obtain ⟨fragments, there⟩ : ∃ fragments, block.lines[index]? = some fragments := by
      have within : index < block.lines.length :=
        List.mem_range.1 (List.mem_filter.1 member).1
      exact ⟨_, List.getElem?_eq_getElem within⟩
    refine ⟨fragments, lineAt directive block index, there, rfl, ?_⟩
    rw [lineAt, there, Option.getD_some]
    exact showsLine block.palette _ fragments
  · -- Both directives put the line of an index together in the same way.
    intro other otherIsBlock samePreserved
    refine ⟨fun sameMarked => ?_, fun same => ?_⟩
    · refine ⟨settledCode other block, codeAt?_eq_settledCode found otherIsBlock state, ?_⟩
      intro index first second isFirst isSecond
      have sameLine : lineAt other block index = lineAt directive block index := by
        rw [lineAt, lineAt, samePreserved, Directive.isHighlighted, Directive.isHighlighted,
          sameMarked]
      rw [children_settledCode, children_settledCode, List.getElem?_map, List.getElem?_map,
        isFirst, isSecond, Option.map_some, Option.map_some, sameLine]
    · have sameCode : cutCode other block = cutCode directive block :=
        cutCode_eq_of_lines (fun index within => (same index within).1)
          fun index within => (same index within).2
      rw [codeAt?_eq_settledCode found otherIsBlock, settledCode, settledCode, samePreserved,
        sameCode]

theorem code_shows_lines_under_their_indices_around_hidden :
    let block : TokenBlock := ⟨⟨"dark", "#fff", "#000"⟩, [[{ content := "a" }], [], [], []]⟩
    let directive : Directive := { hidden := .insert 1 ∅, highlighted := .insert 2 ∅ }
    ∃ code, codeAt? directive [block] () 0 = some code ∧ code.children.length = 3 ∧
      codeAt? { directive with highlighted := .insert 9 (.insert 2 ∅) } [block] () 0 = some code ∧
      ∃ all, codeAt? { directive with hidden := ∅ } [block] () 0 = some all ∧
        all.children[2]? = code.children[1]? := by
  intro block directive
  obtain ⟨code, isCode, shows, others⟩ :=
    code_shows_lines_under_their_indices directive rfl [block] () 0 block rfl
  have asked : directive.askedIndices block = [0, 2, 3] := by
    have asks : directive.asksFor = fun index => !(index == 1) := by
      funext index
      exact congrArg not (LineSet.contains_insert_empty 1 index)
    rw [Directive.askedIndices, asks]
    decide
  refine ⟨code, isCode, ?_, ?_, ?_⟩
  · rw [← shows.length_eq, asked]
    rfl
  · refine (others { directive with highlighted := .insert 9 (.insert 2 ∅) } rfl rfl).2
      fun index within => ⟨rfl, ?_⟩
    have notNine : index ≠ (9 : UInt64).toNat := Nat.ne_of_lt (Nat.lt_trans within (by decide))
    rw [Bool.eq_iff_iff, LineSet.contains_insert, or_iff_right notNine]
  · obtain ⟨all, isAll, same⟩ := (others { directive with hidden := ∅ } rfl rfl).1 rfl
    exact ⟨all, isAll, same 2 1 2 (by rw [asked]; rfl) (by decide)⟩

end Layout

end Listings
