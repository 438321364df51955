/-
This file defines selectors, which say where a rule of a theme holds and how closely.
-/

import Listings.Scope

namespace Listings

/-- Scopes that follow each other in a stack, perhaps with others between them. -/
structure Selector where
  path : List Scope
  /-- The selector holds in no stack where one of these paths does. -/
  excluded : List (List Scope) := []
deriving DecidableEq, Repr

namespace Selector

/-- Every scope further in weighs more than all atoms of a scope before it. -/
def weight (scope : Scope) (position : Nat) : Nat := scope.atoms.length * Nat.pow 8 position

/-- The weight of the first places where the path is found. -/
def pathScore? : List Scope → Nat → ScopeStack → Option Nat
  | [], _, _ => some 0
  | _ :: _, _, [] => none
  | wanted :: path, position, scope :: stack =>
      if scope.refines wanted then
        (pathScore? path (position + 1) stack).map fun score => weight wanted position + score
      else pathScore? (wanted :: path) (position + 1) stack

/-- An empty path holds everywhere with the least score of all. -/
def score? (selector : Selector) (stack : ScopeStack) : Option Nat :=
  if selector.excluded.any fun path => (pathScore? path 0 stack).isSome then none
  else if selector.path.isEmpty then some 1
  else pathScore? selector.path 0 stack

/-- The one scope of a selector that asks for nothing else. -/
def single? (selector : Selector) : Option Scope :=
  match selector.path, selector.excluded with
  | [scope], [] => some scope
  | _, _ => none

/-- A path, and after each hyphen with a blank before it a path that is excluded. -/
def ofText (text : String) : Selector :=
  match text.splitOn " -" with
  | path :: excluded => ⟨Scope.ofText path, excluded.map Scope.ofText⟩
  | [] => ⟨[], []⟩

/-- The selectors of a text with commas or bars between them. -/
def listOfText (text : String) : List Selector :=
  (Text.pieces (fun c => c == ',' || c == '|') text.toList).map fun piece =>
    ofText (String.ofList piece)

end Selector

end Listings
