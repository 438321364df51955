/-
This file reads the targets of links and their definitions.
-/

import Listings.Markdown.Entity
import Listings.Text.Case

namespace Listings.Markdown

open Text

/-- Where a link leads and what it is called. -/
structure Target where
  destination : List Char
  title : List Char
deriving Inhabited

/-- Targets by the normal forms of their labels. -/
abbrev References := List (List Char × Target)

namespace Target

/-- The text before a `>` on the same line, and what follows it. -/
def pointed? : List Char → Option (List Char × List Char)
  | [] => none
  | '\\' :: c :: rest =>
      if isAsciiPunctuation c then
        (pointed? rest).map fun found => ('\\' :: c :: found.1, found.2)
      else (pointed? (c :: rest)).map fun found => ('\\' :: found.1, found.2)
  | c :: rest =>
      if c == '>' then some ([], rest)
      else if c == '<' || c == '\n' then none
      else (pointed? rest).map fun found => (c :: found.1, found.2)

/-- The text up to a blank or a parenthesis that closes what was not opened here. -/
def bare? (depthLimit : Nat) : Nat → List Char → Option (List Char × List Char)
  | depth, [] => if depth == 0 then some ([], []) else none
  | depth, '\\' :: c :: rest =>
      if isAsciiPunctuation c then
        (bare? depthLimit depth rest).map fun found => ('\\' :: c :: found.1, found.2)
      else (bare? depthLimit depth (c :: rest)).map fun found => ('\\' :: found.1, found.2)
  | depth, c :: rest =>
      let further := fun depth =>
        (bare? depthLimit depth rest).map fun (found : List Char × List Char) =>
          (c :: found.1, found.2)
      if c ≤ ' ' || (c == ')' && depth == 0) then
        if depth == 0 then some ([], c :: rest) else none
      else if c == '(' then if depthLimit < depth then none else further (depth + 1)
      else if c == ')' then further (depth - 1)
      else further depth

/-- The destination as it is written, and what follows it. -/
def destination? (depthLimit : Nat) (text : List Char) : Option (List Char × List Char) :=
  match text with
  | '<' :: rest => pointed? rest
  | _ => bare? depthLimit 0 text

/-- The text of a title up to the sign that closes it. -/
def titleText? (close : Char) : List Char → Option (List Char × List Char)
  | [] => none
  | '\\' :: c :: rest =>
      if isAsciiPunctuation c then
        (titleText? close rest).map fun found => ('\\' :: c :: found.1, found.2)
      else (titleText? close (c :: rest)).map fun found => ('\\' :: found.1, found.2)
  | c :: rest =>
      if c == close then some ([], rest)
      else if c == '(' && close == ')' then none
      else (titleText? close rest).map fun found => (c :: found.1, found.2)

/-- Lines without the blanks at their starts. -/
def dropMargins (text : List Char) : List Char :=
  Text.join ['\n'] ((lines text).map fun line => line.dropWhile isSpacing)

/-- A title in quotes or parentheses, and what follows it. -/
def title? (text : List Char) : Option (List Char × List Char) :=
  let found := match text with
    | '"' :: rest => titleText? '"' rest
    | '\'' :: rest => titleText? '\'' rest
    | '(' :: rest => titleText? ')' rest
    | _ => none
  found.map fun sides => (unescape (dropMargins sides.1), sides.2)

end Target

namespace References

def labelLimit : Nat := 1000

/-- The label before the bracket that closes it, and what follows that bracket. -/
def labelText? : List Char → Option (List Char × List Char)
  | [] => none
  | '\\' :: c :: rest => (labelText? rest).map fun found => ('\\' :: c :: found.1, found.2)
  | c :: rest =>
      if c == ']' then some ([], rest)
      else if c == '[' then none
      else (labelText? rest).map fun found => (c :: found.1, found.2)

/-- Labels are the same up to case and the width of blanks. -/
def normalize (label : List Char) : List Char :=
  foldCase (Text.join [' '] (((pieces isAsciiBlank label).filter fun word => !word.isEmpty)))

/-- The normal form of a label whose first bracket was read, and what follows the label. -/
def label? (text : List Char) : Option (List Char × List Char) := do
  let (label, rest) ← labelText? text
  if label.all isAsciiBlank || labelLimit ≤ label.length then none
  else pure (normalize label, rest)

/-- The first definition of a label counts. -/
def find? (references : References) (label : List Char) : Option Target :=
  references.lookup label

/-- Parentheses in the destination of a definition nest no deeper than this. -/
def depthLimit : Nat := 1

/-- A definition of a label. -/
structure Definition where
  label : List Char
  target : Target

/-- Whether a line ended among the blanks here, and what follows them. -/
def gap (text : List Char) : Bool × List Char :=
  let rest := text.dropWhile isSpacing
  match rest with
  | '\n' :: more => (true, more.dropWhile isSpacing)
  | [] => (true, [])
  | _ => (false, rest)

/-- What follows the end of a line that only blanks may come before. -/
def nextLine? (text : List Char) : Option (List Char) :=
  match text.dropWhile isSpacing with
  | '\n' :: rest => some rest
  | [] => some []
  | _ => none

/-- The definition of a label with a target, whose title may be absent. -/
def withTitle? (label destination after : List Char) : Option (Definition × List Char) :=
  let define := fun (title : List Char) =>
    Definition.mk label ⟨unescape destination, title⟩
  let (isNewLine, rest) := gap after
  let untitled := (nextLine? after).map fun more => (define [], more)
  if rest.length == after.length && !isNewLine then none
  else
    match Target.title? rest with
    | some (title, last) =>
        match nextLine? last with
        | some more => some (define title, more)
        | none => untitled
    | none => untitled

/-- The definition that a text starts with, and the lines after it. -/
def definition? (text : List Char) : Option (Definition × List Char) :=
  match text with
  | '[' :: rest => do
      let (label, afterLabel) ← label? rest
      match afterLabel with
      | ':' :: rest => do
          let (_, start) := gap rest
          let (destination, after) ← Target.destination? depthLimit start
          if after.length == start.length then none else withTitle? label destination after
      | _ => none
  | _ => none

end References

end Listings.Markdown
