/-
This file cuts documents into lines and measures the margins of a line.
-/

import Listings.Markdown.Entity

namespace Listings.Markdown

/-- A line with what ends it; only the last line of a document may end with nothing. -/
structure SourceLine where
  content : List Char
  ending : List Char

namespace SourceLine

/-- Puts a character before the first line. -/
def prepend (c : Char) : List SourceLine → List SourceLine
  | [] => [⟨[c], []⟩]
  | line :: rest => ⟨c :: line.content, line.ending⟩ :: rest

/-- A line ends with a line feed, a carriage return or both. -/
def split : List Char → List SourceLine
  | [] => []
  | '\r' :: '\n' :: rest => ⟨[], ['\r', '\n']⟩ :: split rest
  | c :: rest =>
      if c == '\n' || c == '\r' then ⟨[], [c]⟩ :: split rest else prepend c (split rest)

/-- What ends the line in its text, where two characters count as one. -/
def textEnding (line : SourceLine) : List Char :=
  if line.ending == ['\r', '\n'] then ['\n'] else line.ending

def isTerminated (line : SourceLine) : Bool := !line.ending.isEmpty

end SourceLine

/-- A place in a line where blanks are counted in columns. -/
structure Margin where
  rest : List Char
  column : Nat := 0
  /-- Columns of a tab that was passed only in part. -/
  pending : Nat := 0

namespace Margin

/-- Takes blanks from the text, and gives how many columns are still wanted. -/
def takeBlanks : Nat → Nat → List Char → Nat × Margin
  | wanted, column, [] => (wanted, ⟨[], column, 0⟩)
  | wanted, column, c :: rest =>
      if wanted == 0 then (0, ⟨c :: rest, column, 0⟩)
      else if c == ' ' then takeBlanks (wanted - 1) (column + 1) rest
      else if c == '\t' then
        let width := 4 - column % 4
        if width ≤ wanted then takeBlanks (wanted - width) (column + width) rest
        else (0, ⟨rest, column + width, width - wanted⟩)
      else (wanted, ⟨c :: rest, column, 0⟩)

/-- Takes at most so many columns of blanks, and gives how many are still wanted. -/
def takeColumns (wanted : Nat) (margin : Margin) : Nat × Margin :=
  if wanted ≤ margin.pending then (0, { margin with pending := margin.pending - wanted })
  else takeBlanks (wanted - margin.pending) margin.column margin.rest

/-- The margin behind so many columns of blanks, if they are there. -/
def past? (wanted : Nat) (margin : Margin) : Option Margin :=
  match margin.takeColumns wanted with
  | (0, after) => some after
  | _ => none

/-- The number of columns of blanks, up to a limit, and the margin behind them. -/
def measure (limit : Nat) (margin : Margin) : Nat × Margin :=
  let (missing, after) := margin.takeColumns limit
  (limit - missing, after)

/-- Goes past so many characters that are no blanks. -/
def skip (count : Nat) (margin : Margin) : Margin :=
  ⟨margin.rest.drop count, margin.column + count, 0⟩

/-- Nothing is left in the line. -/
def isAtEnd (margin : Margin) : Bool := margin.rest.isEmpty

def isBlank (margin : Margin) : Bool := margin.rest.all isSpacing

/-- The text from here, with spaces for the rest of a tab. -/
def text (margin : Margin) : List Char :=
  List.replicate margin.pending ' ' ++ margin.rest

end Margin

def SourceLine.margin (line : SourceLine) : Margin := { rest := line.content }

/-- What holds the text of a line away from its start. -/
inductive Container where
  | quote
  | item (indent : Nat)
deriving DecidableEq

namespace Container

/-- The margin behind the sign of a quote; one blank belongs to it. -/
def quoteMargin? (margin : Margin) : Option Margin :=
  match margin.rest with
  | '>' :: _ => some (((margin.skip 1).takeColumns 1).2)
  | _ => none

/-- The margin inside the container, if the line goes on in it. -/
def enter? (margin : Margin) : Container → Option Margin
  | quote =>
      let (indent, after) := margin.measure 4
      if indent < 4 then quoteMargin? after else none
  | item indent =>
      let (missing, after) := margin.takeColumns indent
      if missing == 0 || after.isAtEnd then some after else none

/-- Goes on in as many containers as the line allows, outermost first. -/
def enterAll : List Container → Margin → Nat × Margin
  | [], margin => (0, margin)
  | container :: rest, margin =>
      match container.enter? margin with
      | none => (0, margin)
      | some inner =>
          let (entered, last) := enterAll rest inner
          (entered + 1, last)

end Container

/-- A line as its containers see it. -/
structure EnteredLine where
  source : SourceLine
  margin : Margin
  /-- Whether it goes on in all of them. -/
  isInside : Bool

def SourceLine.enter (containers : List Container) (line : SourceLine) : EnteredLine :=
  let (entered, margin) := Container.enterAll containers line.margin
  ⟨line, margin, entered == containers.length⟩

end Listings.Markdown
