/-
This file goes through the elements of a layout: what holds of every kind of them holds everywhere.
-/

import Listings.Layout
import Listings.Proofs.Markup.Everywhere

namespace Listings.Layout

open Markup (Element Node)

/-- The shown lines of a block, without the frame around them. -/
def cutCode (directive : Directive) (tokens : TokenBlock) : Element :=
  (Element.mk "code" ∅ []).withChildren ((visibleLines directive tokens.lines).map fun entry =>
    (line tokens.palette (directive.isHighlighted entry.2) entry.1).toNode)

/-- A text that is not cut into lines, without the frame around it. -/
def wholeCode (text : String) (palette : Palette) : Element :=
  ((Element.mk "code" ∅ []).withText "style" ("color: " ++ palette.foreground)).withChild
    (.text text)

theorem zipIdx_eq_map_range (lines : List Line) :
    lines.zipIdx = (List.range lines.length).map fun index => (lines[index]?.getD [], index) := by
  refine List.ext_getElem (by simp) ?_
  intro index inside _
  have within : index < lines.length := by simpa using inside
  simp [within]

/-- Lines are left out by their indices, which the others keep. -/
theorem visibleLines_eq (directive : Directive) (lines : List Line) :
    visibleLines directive lines = ((List.range lines.length).filter directive.isVisible).map
      fun index => (lines[index]?.getD [], index) := by
  rw [visibleLines, zipIdx_eq_map_range, List.filter_map]
  rfl

theorem children_block (directive : Directive) (tokens : TokenBlock) :
    (block directive tokens).children = [(container (cutCode directive tokens)).toNode] := rfl

theorem children_plainRoot (text : String) (directive : Directive) (palette : Palette) :
    (plainRoot text directive palette).children =
      [(container (wholeCode text palette)).toNode] := rfl

theorem children_container (code : Element) : (container code).children = [code.toNode] := rfl

theorem children_line (palette : Palette) (marked : Bool) (fragments : Line) :
    (line palette marked fragments).children =
      fragments.map (fun fragment => (span palette fragment).toNode) ++ [.text "\n"] := rfl

theorem children_inline (index : Nat) (tokens : TokenBlock) :
    (inline index tokens).children =
      [(line tokens.palette false (tokens.lines[index]?.getD [])).toNode] := rfl

theorem tag_span (palette : Palette) (fragment : Fragment) :
    (span palette fragment).tag = "span" := by
  unfold span withScopeText
  split <;> rfl

theorem children_span (palette : Palette) (fragment : Fragment) :
    (span palette fragment).children = [.text fragment.content] := by
  unfold span withScopeText
  split <;> rfl

variable {holds : Element → Prop}

theorem everywhere_toNode {element : Element} :
    element.toNode.Everywhere holds ↔
      holds element ∧ ∀ child ∈ element.children, child.Everywhere holds :=
  Node.everywhere_element

theorem everywhere_line {palette : Palette} {marked : Bool} {fragments : Line}
    (here : holds (line palette marked fragments))
    (spans : ∀ fragment ∈ fragments, holds (span palette fragment)) :
    (line palette marked fragments).toNode.Everywhere holds := by
  refine everywhere_toNode.2 ⟨here, ?_⟩
  intro child member
  rw [children_line, List.mem_append, List.mem_map, List.mem_singleton] at member
  obtain ⟨fragment, inLine, rfl⟩ | rfl := member
  · refine everywhere_toNode.2 ⟨spans fragment inLine, ?_⟩
    rw [children_span]
    simp [Node.everywhere_text]
  · exact Node.everywhere_text _

/-- What holds of the frame of code and of the code holds below the root of a block. -/
theorem everywhere_below_frame {root code : Element}
    (framed : root.children = [(container code).toNode]) (frame : holds (container code))
    (below : code.toNode.Everywhere holds) : ∀ child ∈ root.children, child.Everywhere holds := by
  rw [framed]
  intro child member
  rw [List.mem_singleton.1 member]
  refine everywhere_toNode.2 ⟨frame, ?_⟩
  rw [children_container]
  simpa using below

/-- A layout has no elements below its root but a frame, the code, lines and spans. -/
theorem everywhere_below_root (directive : Directive) (tokens : TokenBlock)
    (frame : holds (container (cutCode directive tokens)))
    (code : holds (cutCode directive tokens))
    (lines : ∀ marked fragments, holds (line tokens.palette marked fragments))
    (spans : ∀ line ∈ tokens.lines, ∀ fragment ∈ line, holds (span tokens.palette fragment)) :
    ∀ child ∈ (root directive tokens).children, child.Everywhere holds := by
  unfold root
  split
  · rename_i index _
    intro child member
    rw [children_inline, List.mem_singleton] at member
    rw [member]
    apply everywhere_line (lines _ _)
    intro fragment inLine
    cases found : tokens.lines[index]? with
    | none => simp [found] at inLine
    | some line =>
        rw [found] at inLine
        exact spans line (List.mem_of_getElem? found) fragment inLine
  · apply everywhere_below_frame (children_block directive tokens) frame
    refine everywhere_toNode.2 ⟨code, ?_⟩
    intro child member
    have isLine : child ∈ (visibleLines directive tokens.lines).map fun entry =>
        (line tokens.palette (directive.isHighlighted entry.2) entry.1).toNode := member
    obtain ⟨entry, inVisible, rfl⟩ := List.mem_map.1 isLine
    have inLines := List.fst_mem_of_mem_zipIdx (List.mem_filter.1 inVisible).1
    exact everywhere_line (lines _ _) (spans entry.1 inLines)

theorem everywhere_below_plainRoot (text : String) (directive : Directive) (palette : Palette)
    (frame : holds (container (wholeCode text palette))) (code : holds (wholeCode text palette)) :
    ∀ child ∈ (plainRoot text directive palette).children, child.Everywhere holds := by
  apply everywhere_below_frame (children_plainRoot text directive palette) frame
  refine everywhere_toNode.2 ⟨code, ?_⟩
  have children : (wholeCode text palette).children = [.text text] := rfl
  rw [children]
  simp [Node.everywhere_text]

end Listings.Layout
