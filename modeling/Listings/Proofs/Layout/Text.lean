/-
This file shows which text a layout holds and that its names are good names.
-/

import Listings.Proofs.Layout.Elements

namespace Listings.Layout

open Markup

theorem wellNamed_span (palette : Palette) (fragment : Fragment) :
    (span palette fragment).wellNamed = true := by
  have styled : ((Element.mk "span" ∅ []).withText "style" (spanStyle palette fragment)).wellNamed =
      true :=
    Element.wellNamed_withAttribute (by decide) (Element.wellNamed_mk (by decide)) _
  unfold span withScopeText
  refine Element.wellNamed_withChild ?_ (Node.wellNamed_text _)
  split
  · exact Element.wellNamed_withAttribute (by decide) styled _
  · exact styled

theorem textContent_spans (palette : Palette) (fragments : Line) :
    Forest.textContent (fragments.map fun fragment => (span palette fragment).toNode) =
      fragments.text := by
  induction fragments with
  | nil => rfl
  | cons fragment rest inductionHypothesis =>
      rw [List.map_cons, Forest.textContent_cons, inductionHypothesis, Element.textContent_toNode,
        children_span]
      simp [Line.text]

/-- A line holds the text of its fragments and a newline. -/
theorem textContent_line (palette : Palette) (marked : Bool) (fragments : Line) :
    (line palette marked fragments).toNode.textContent = fragments.text ++ ['\n'] := by
  rw [Element.textContent_toNode, children_line, Forest.textContent_append, textContent_spans]
  rfl

theorem wellNamed_line (palette : Palette) (marked : Bool) (fragments : Line) :
    (line palette marked fragments).wellNamed = true := by
  refine Element.wellNamed_withChildren
    (Element.wellNamed_withClasses (Element.wellNamed_mk (by decide)) _) ?_
  intro child member
  rcases List.mem_append.1 member with inSpans | inNewline
  · obtain ⟨fragment, _, rfl⟩ := List.mem_map.1 inSpans
    exact wellNamed_span palette fragment
  · rw [List.mem_singleton.1 inNewline]
    rfl

theorem wellNamed_blockRoot {directive : Directive} (named : directive.attributes.wellNamed = true)
    (palette : Palette) : (blockRoot palette directive).wellNamed = true := by
  have styled : (((Element.mk "pre" ∅ []).withClasses (rootClasses palette)).withText "style"
      ("background-color: " ++ palette.background)).wellNamed = true :=
    Element.wellNamed_withAttribute (by decide)
      (Element.wellNamed_withClasses (Element.wellNamed_mk (by decide)) _) _
  rw [Element.wellNamed_iff] at styled
  exact Element.wellNamed_iff.2
    ⟨styled.1, Attributes.wellNamed_union styled.2.1 named, styled.2.2⟩

theorem wellNamed_container {code : Element} (named : code.wellNamed = true) :
    (container code).wellNamed = true :=
  Element.wellNamed_withChild
    (Element.wellNamed_withClasses (Element.wellNamed_mk (by decide)) _) named

/-- The frame of a block holds no text of its own. -/
theorem textContent_framed (palette : Palette) (directive : Directive) (code : Element) :
    ((blockRoot palette directive).withChild (container code).toNode).textContent =
      code.textContent := by
  have children : ((blockRoot palette directive).withChild (container code).toNode).children =
      [(container code).toNode] := rfl
  rw [Element.textContent, Element.textContent, Element.textContent_toNode, children,
    Forest.textContent_cons, Element.textContent_toNode (container code), children_container]
  simp

theorem textContent_lines (palette : Palette) (directive : Directive) (lines : List (Line × Nat)) :
    Forest.textContent (lines.map fun entry =>
      (line palette (directive.isHighlighted entry.2) entry.1).toNode) =
        lines.flatMap fun entry => entry.1.text ++ ['\n'] := by
  induction lines with
  | nil => rfl
  | cons entry rest inductionHypothesis =>
      rw [List.map_cons, Forest.textContent_cons, inductionHypothesis, textContent_line,
        List.flatMap_cons]

/-- A block holds the visible lines, each with a newline. -/
theorem textContent_block (directive : Directive) (tokens : TokenBlock) :
    (block directive tokens).textContent =
      String.ofList ((visibleLines directive tokens.lines).flatMap fun entry =>
        entry.1.text ++ ['\n']) := by
  rw [block, textContent_framed, Element.textContent, Element.textContent_toNode,
    ← textContent_lines tokens.palette directive]
  rfl

theorem wellNamed_block {directive : Directive} (named : directive.attributes.wellNamed = true)
    (tokens : TokenBlock) : (block directive tokens).wellNamed = true := by
  refine Element.wellNamed_withChild (wellNamed_blockRoot named tokens.palette)
    (wellNamed_container (Element.wellNamed_withChildren (Element.wellNamed_mk (by decide)) ?_))
  intro child member
  obtain ⟨entry, _, rfl⟩ := List.mem_map.1 member
  exact wellNamed_line _ _ _

theorem textContent_inline (index : Nat) (tokens : TokenBlock) :
    (inline index tokens).textContent =
      String.ofList ((tokens.lines[index]?.getD []).text ++ ['\n']) := by
  rw [Element.textContent, Element.textContent_toNode, children_inline, Forest.textContent_cons,
    textContent_line, Forest.textContent_nil, List.append_nil]

theorem wellNamed_inline (index : Nat) (tokens : TokenBlock) :
    (inline index tokens).wellNamed = true :=
  Element.wellNamed_withChild
    (Element.wellNamed_withClasses (Element.wellNamed_mk (by decide)) _) (wellNamed_line _ _ _)

theorem wellNamed_root {directive : Directive} (named : directive.attributes.wellNamed = true)
    (tokens : TokenBlock) : (root directive tokens).wellNamed = true := by
  unfold root
  split
  · exact wellNamed_inline _ tokens
  · exact wellNamed_block named tokens

theorem textContent_plainRoot (text : String) (directive : Directive) (palette : Palette) :
    (plainRoot text directive palette).textContent = text := by
  rw [plainRoot, textContent_framed, Element.textContent, Element.textContent_toNode]
  simp [Element.withChild, Element.withText, Element.withAttribute]

theorem wellNamed_plainRoot {directive : Directive} (named : directive.attributes.wellNamed = true)
    (text : String) (palette : Palette) : (plainRoot text directive palette).wellNamed = true :=
  Element.wellNamed_withChild (wellNamed_blockRoot named palette)
    (wellNamed_container (Element.wellNamed_withChild
      (Element.wellNamed_withAttribute (by decide) (Element.wellNamed_mk (by decide)) _)
      (Node.wellNamed_text text)))

variable {σ : Type}

/-- Without edits a root stays as it was laid out, but for its scopes. -/
def unedited (directive : Directive) (tokens : TokenBlock) : Element :=
  if directive.preservesScopes then root directive tokens else (root directive tokens).stripScopes

theorem format_without_makers (directive : Directive) (blocks : List TokenBlock) (state : σ) :
    format directive ([] : List (EditMaker σ)) blocks state =
      (blocks.map (unedited directive), state) := by
  have finished : ∀ tokens, finish directive ([] : List (Edit σ)) (root directive tokens) =
      (pure (unedited directive tokens) : StateM σ Element) := fun _ => rfl
  change (blocks.mapM fun tokens => finish directive [] (root directive tokens)) state = _
  simp only [finished, List.mapM_pure]
  rfl

theorem textContent_unedited (directive : Directive) (tokens : TokenBlock) :
    (unedited directive tokens).textContent = (root directive tokens).textContent := by
  unfold unedited
  split
  · rfl
  · exact Element.textContent_stripScopes _

theorem wellNamed_unedited {directive : Directive} (named : directive.attributes.wellNamed = true)
    (tokens : TokenBlock) : (unedited directive tokens).wellNamed = true := by
  unfold unedited
  split
  · exact wellNamed_root named tokens
  · exact Element.wellNamed_stripScopes (wellNamed_root named tokens)

end Listings.Layout
