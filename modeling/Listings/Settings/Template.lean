/-
This file reads texts that refer to variables and puts values in.
-/

import Listings.Text.Pieces
import Listings.Text.Property.Alphanumeric

namespace Listings

open Text

/-- A piece of a text that refers to variables. -/
inductive TemplatePart where
  | character (c : Char)
  /-- The default stands in for a variable that is not set. -/
  | reference (name : String) (default : Option String)
deriving DecidableEq

abbrev Template := List TemplatePart

namespace Template

def isNameChar (c : Char) : Bool := isAlphanumeric c || c == '_'

/-- What stands between braces; a default needs a name before it. -/
def reference (inside : List Char) : TemplatePart :=
  match cut? [':', '-'] inside with
  | some (c :: name, default) => .reference (String.ofList (c :: name)) (String.ofList default)
  | _ => .reference (String.ofList inside) none

/-- A dollar sign that begins no reference stands for itself, and so do two of them for one. -/
def read (text : List Char) : Template :=
  match text with
  | '$' :: '\x7b' :: rest =>
      match _ : cutAt? (· == '\x7d') rest with
      | some (inside, after) => reference inside :: read after
      | none => .character '$' :: .character '\x7b' :: read rest
  | '$' :: '$' :: rest => .character '$' :: read rest
  | '$' :: rest =>
      let name := rest.takeWhile isNameChar
      if name.isEmpty then .character '$' :: read rest
      else .reference (String.ofList name) none :: read (rest.dropWhile isNameChar)
  | c :: rest => .character c :: read rest
  | [] => []
termination_by text.length
decreasing_by
  all_goals simp only [List.length_cons]
  · have := length_cutAt? ‹_›
    omega
  · omega
  · omega
  · omega
  · have := (List.dropWhile_sublist (l := rest) isNameChar).length_le
    omega
  · omega

variable {m : Type → Type} [Monad m]

/-- Puts values in, which are not read again; fails with the first name without a value. -/
def fill (getVariable : String → m (Option String)) : Template → ExceptT String m (List Char)
  | [] => pure []
  | .character c :: rest => do
      pure (c :: (← fill getVariable rest))
  | .reference name default :: rest => do
      let value ← getVariable name
      match value.or default with
      | some content => do
          pure (content.toList ++ (← fill getVariable rest))
      | none => throw name

/-- Only a text with an opening `$` and brace refers to anything. -/
def expand (getVariable : String → m (Option String)) (text : String) : ExceptT String m String :=
  if (cut? ['$', '\x7b'] text.toList).isSome then
    String.ofList <$> fill getVariable (read text.toList)
  else pure text

end Template

end Listings
