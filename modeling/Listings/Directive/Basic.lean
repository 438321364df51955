/-
This file defines what a directive asks for a block of code.
-/

import Listings.LineSet
import Listings.Markup.Attribute

namespace Listings

open Markup (Attribute Attributes)

/-- Lines to show, hide and mark, and attributes for the block. -/
structure Directive where
  hidden : LineSet := ∅
  /-- All lines are shown when no set is given. -/
  shown : Option LineSet := none
  highlighted : LineSet := ∅
  preservesScopes : Bool := false
  /-- The one line to show without the frame of a block. -/
  inline : Option Nat := none
  attributes : Attributes := ∅
deriving DecidableEq

namespace Directive

instance : Inhabited Directive := ⟨{}⟩

def isVisible (directive : Directive) (line : Nat) : Bool :=
  (match directive.shown with
    | none => true
    | some lines => lines.contains line) && !directive.hidden.contains line

def isHighlighted (directive : Directive) (line : Nat) : Bool :=
  directive.highlighted.contains line

def withInline (line : Nat) (directive : Directive) : Directive :=
  { directive with inline := some line }

def withPreservedScopes (preserves : Bool) (directive : Directive) : Directive :=
  { directive with preservesScopes := preserves }

end Directive

end Listings
