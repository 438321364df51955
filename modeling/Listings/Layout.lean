/-
This file lays out highlighted lines as markup and runs the edits that follow.
-/

import Listings.Directive.Basic
import Listings.Fragment
import Listings.Markup.Node

namespace Listings

open Markup (Attribute Element Node)

/-- An edit of a root, which may read and change a state of its own. -/
abbrev Edit (σ : Type) := Element → StateM σ Element

/-- Makes a fresh edit for one call of the formatter. -/
abbrev EditMaker (σ : Type) := StateM σ (Edit σ)

namespace Layout

def declarations (style : FontStyle) : List String :=
  (if style.italic then ["font-style: italic"] else []) ++
    (if style.bold then ["font-weight: bold"] else []) ++
    (if style.underline then ["text-decoration: underline"] else [])

def spanStyle (palette : Palette) (fragment : Fragment) : String :=
  "; ".intercalate
    (("color: " ++ fragment.color.getD palette.foreground) :: declarations fragment.style)

def withScopeText (scopes : Option String) (span : Element) : Element :=
  match scopes with
  | some text => span.withText Element.scopeAttribute text
  | none => span

def span (palette : Palette) (fragment : Fragment) : Element :=
  let styled := (Element.mk "span" ∅ []).withText "style" (spanStyle palette fragment)
  (withScopeText fragment.scopeText? styled).withChild (.text fragment.content)

def lineClasses (marked : Bool) : List String :=
  if marked then ["line", "highlight-line"] else ["line"]

/-- The final newline keeps empty lines selectable. -/
def line (palette : Palette) (marked : Bool) (fragments : Line) : Element :=
  ((Element.mk "div" ∅ []).withClasses (lineClasses marked)).withChildren
    (fragments.map (fun fragment => (span palette fragment).toNode) ++ [.text "\n"])

def rootClasses (palette : Palette) : List String := ["shiki", palette.name]

def blockRoot (palette : Palette) (directive : Directive) : Element :=
  let root := ((Element.mk "pre" ∅ []).withClasses (rootClasses palette)).withText "style"
    ("background-color: " ++ palette.background)
  { root with attributes := root.attributes.union directive.attributes }

def container (code : Element) : Element :=
  ((Element.mk "div" ∅ []).withClasses ["code-container"]).withChild code.toNode

/-- A line keeps its index when others are not shown. -/
def visibleLines (directive : Directive) (lines : List Line) : List (Line × Nat) :=
  lines.zipIdx.filter fun entry => directive.isVisible entry.2

def block (directive : Directive) (tokens : TokenBlock) : Element :=
  let shown := (visibleLines directive tokens.lines).map fun entry =>
    (line tokens.palette (directive.isHighlighted entry.2) entry.1).toNode
  (blockRoot tokens.palette directive).withChild
    (container ((Element.mk "code" ∅ []).withChildren shown)).toNode

/-- An index past the end shows an empty line. -/
def inline (index : Nat) (tokens : TokenBlock) : Element :=
  ((Element.mk "div" ∅ []).withClasses (rootClasses tokens.palette)).withChild
    (line tokens.palette false (tokens.lines[index]?.getD [])).toNode

def root (directive : Directive) (tokens : TokenBlock) : Element :=
  match directive.inline with
  | some index => inline index tokens
  | none => block directive tokens

/-- The frame of a block around a text that is not cut into lines. -/
def plainRoot (text : String) (directive : Directive) (palette : Palette) : Element :=
  let styled := (Element.mk "code" ∅ []).withText "style" ("color: " ++ palette.foreground)
  (blockRoot palette directive).withChild (container (styled.withChild (.text text))).toNode

def plain (text : String) (palettes : List Palette) (directive : Directive) : List Element :=
  palettes.map (plainRoot text directive)

variable {σ : Type}

/-- All edits see the scopes, which go afterwards unless they are to stay. -/
def finish (directive : Directive) (edits : List (Edit σ)) (root : Element) :
    StateM σ Element := do
  let edited ← edits.foldlM (fun root edit => edit root) root
  pure (if directive.preservesScopes then edited else edited.stripScopes)

/-- Every maker makes its edit before the first root is laid out. -/
def format (directive : Directive) (makers : List (EditMaker σ)) (blocks : List TokenBlock) :
    StateM σ (List Element) := do
  let edits ← makers.mapM id
  blocks.mapM fun tokens => finish directive edits (root directive tokens)

end Layout

end Listings
