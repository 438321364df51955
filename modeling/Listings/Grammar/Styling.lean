/-
This file cuts lines where their scopes change and joins pieces that look alike.
-/

import Listings.Error
import Listings.Text.Bytes
import Listings.Theme.Basic

namespace Listings

/-- A change of the scopes, with the number of bytes of the line that stand before it. -/
structure Placed (Change : Type) where
  byte : Nat
  change : Change
deriving DecidableEq, Repr

/-- What finds the changes of scopes in lines and keeps the scopes in a stack. -/
structure Scoping (State Stack Change : Type) where
  /-- Where a text begins, if its language is known. -/
  start? : (language : String) → Option State
  /-- The changes in a line, which ends with `\n`. -/
  readLine : State → (line : List Char) → Except TokenizeError (List (Placed Change) × State)
  outermost : Stack
  apply : Stack → Change → Except TokenizeError Stack
  /-- The names of the scopes, outermost first. -/
  names : Stack → List String

/-- A piece of a line with the scopes around it. -/
structure ScopedPiece (Stack : Type) where
  content : List Char
  stack : Stack
deriving DecidableEq

/-- What a line has from one byte up to another, if that is anything. -/
def ScopedPiece.between {Stack : Type} (content : List Char) (first last : Nat) (stack : Stack) :
    List (ScopedPiece Stack) :=
  if first < last then [⟨Text.slice first last content, stack⟩] else []

namespace Fragment

def looksLike (a b : Fragment) : Bool := a.color == b.color && a.style == b.style

def append (a b : Fragment) : Fragment :=
  { a with content := a.content ++ b.content, parts := a.parts ++ b.parts }

/-- Joins neighbours of the same color and style. -/
def joinAlike : List Fragment → Line
  | [] => []
  | fragment :: rest =>
      match joinAlike rest with
      | [] => [fragment]
      | next :: more =>
          if fragment.looksLike next then fragment.append next :: more
          else fragment :: next :: more

end Fragment

namespace Scoping

variable {State Stack Change : Type}

/-- Cuts what a line has from a position on, and gives the stack after all changes. -/
def cut (scoping : Scoping State Stack Change) (content : List Char) (position : Nat)
    (stack : Stack) : List (Placed Change) → Except TokenizeError (List (ScopedPiece Stack) × Stack)
  | [] => .ok (ScopedPiece.between content position (Text.byteLength content) stack, stack)
  | placed :: changes => do
      -- A change after the content does not reach into it.
      let index := min placed.byte (Text.byteLength content)
      let next ← scoping.apply stack placed.change
      let (pieces, last) ← scoping.cut content (max position index) next changes
      pure (ScopedPiece.between content position index stack ++ pieces, last)

def part (scoping : Scoping State Stack Change) (piece : ScopedPiece Stack) : SubToken :=
  ⟨String.ofList piece.content, scoping.names piece.stack⟩

def fragment (scoping : Scoping State Stack Change) (look : Stack → Look)
    (piece : ScopedPiece Stack) : Fragment where
  content := String.ofList piece.content
  color := some (look piece.stack).color.text
  style := (look piece.stack).style
  parts := [scoping.part piece]

/-- The fragments of a line and the scopes that go on after it. -/
def styleLine (scoping : Scoping State Stack Change) (look : Stack → Look) (stack : Stack)
    (changes : List (Placed Change)) (content : List Char) :
    Except TokenizeError (Line × Stack) := do
  let (pieces, last) ← scoping.cut content 0 stack changes
  pure (Fragment.joinAlike (pieces.map (scoping.fragment look)), last)

/-- A line without the carriage return at its end. -/
def lineContent (line : List Char) : List Char := (Text.dropEnd? ['\r'] line).getD line

/-- States and scopes go on from one line to the next. -/
def tokenizeLines (scoping : Scoping State Stack Change) (look : Stack → Look) :
    State → Stack → List (List Char) → Except TokenizeError (List Line)
  | _, _, [] => .ok []
  | state, stack, line :: lines => do
      let content := lineContent line
      let (changes, state) ← scoping.readLine state (content ++ ['\n'])
      let (fragments, stack) ← scoping.styleLine look stack changes content
      let others ← scoping.tokenizeLines look state stack lines
      pure (fragments :: others)

/-- The language is looked up before the theme. -/
def tokenize (scoping : Scoping State Stack Change)
    (looks : (theme : String) → Except HighlightError (Stack → Look))
    (text language theme : String) : Except HighlightError (List Line) :=
  match scoping.start? language with
  | none => .error (.tokenize language .noGrammar)
  | some state => do
      let look ← looks theme
      (scoping.tokenizeLines look state scoping.outermost (Text.lines text.toList)).mapError
        (.tokenize language)

end Scoping

end Listings
