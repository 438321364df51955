/-
This file defines scopes, which say what a piece of text is, and how they are stacked.
-/

import Listings.Text.Pieces

namespace Listings

open Text

/-- Atoms that go from the general to the special. -/
structure Scope where
  atoms : List String
deriving DecidableEq, Repr

namespace Scope

/-- Dots part the atoms; those at the end count for nothing. -/
def ofWord (word : List Char) : Scope :=
  let kept := (word.reverse.dropWhile (· == '.')).reverse
  ⟨(pieces (· == '.') kept).map String.ofList⟩

/-- The scopes of a text with blanks between them. -/
def ofText (text : String) : List Scope := (words text.toList).map ofWord

def name (scope : Scope) : String := ".".intercalate scope.atoms

/-- The scope starts with all atoms of the other one. -/
def refines (scope general : Scope) : Bool := general.atoms.isPrefixOf scope.atoms

end Scope

/-- The scopes around a piece of text, outermost first. -/
abbrev ScopeStack := List Scope

inductive ScopeChange where
  | push (scope : Scope)
  | pop (count : Nat)
deriving DecidableEq, Repr

def ScopeChange.apply (stack : ScopeStack) : ScopeChange → ScopeStack
  | push scope => stack ++ [scope]
  | pop count => stack.take (stack.length - count)

end Listings
