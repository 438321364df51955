/-
This file reads the lines of tables.
-/

import Listings.Markdown.Start

namespace Listings.Markdown

inductive Alignment where
  | none
  | left
  | center
  | right
deriving DecidableEq

namespace Table

open Text

/-- A bar divides unless a backslash stands before it. -/
def cutBars : List Char → List (List Char)
  | [] => [[]]
  | '\\' :: '|' :: rest =>
      match cutBars rest with
      | [] => [['\\', '|']]
      | first :: more => ('\\' :: '|' :: first) :: more
  | c :: rest =>
      if c == '|' then [] :: cutBars rest
      else
        match cutBars rest with
        | [] => [[c]]
        | first :: more => (c :: first) :: more

def trimSpacing (text : List Char) : List Char :=
  ((text.dropWhile isSpacing).reverse.dropWhile isSpacing).reverse

/-- A line without the bar at its start. -/
def withoutFirstBar (line : List Char) : List Char :=
  (dropStart? ['|'] line).getD line

/-- Within a cell, a bar needs no backslash. -/
def cellText : List Char → List Char
  | '\\' :: '|' :: rest => '|' :: cellText rest
  | c :: rest => c :: cellText rest
  | [] => []

/-- The cells of a line; nothing stands behind the bar at its end. -/
def cells (line : List Char) : List (List Char) :=
  let parts := cutBars (withoutFirstBar line)
  let kept := if (parts.getLastD []).all isSpacing then parts.dropLast else parts
  kept.map fun part => cellText (trimSpacing part)

/-- Exactly so many cells; missing ones are empty. -/
def fit (count : Nat) (cells : List (List Char)) : List (List Char) :=
  (cells ++ List.replicate (count - cells.length) []).take count

/-- How a column is aligned by the signs that it has so far. -/
structure Column where
  alignment : Alignment := .none
  isStarted : Bool := false
  hasHyphen : Bool := false

def Column.add (column : Column) (c : Char) : Option Column :=
  match c with
  | ' ' => some column
  | '-' => some { column with isStarted := true, hasHyphen := true }
  | ':' =>
      let alignment : Alignment :=
        match column.isStarted, column.alignment with
        | false, .none => .left
        | true, .left => .center
        | true, .none => .right
        | _, alignment => alignment
      some { column with alignment := alignment, isStarted := true }
  | _ => none

/-- The alignments of columns, each of which needs a hyphen before its bar. -/
def columns? : List (List Char) → Option (List Alignment)
  | [] => some []
  | [last] => do
      let column ← last.foldlM Column.add {}
      if column.isStarted then pure [column.alignment] else pure []
  | part :: rest => do
      let column ← part.foldlM Column.add {}
      if column.hasHyphen then (columns? rest).map (column.alignment :: ·) else none

/-- The alignments in a line of hyphens, colons and at least one bar. -/
def alignments? (line : List Char) : Option (List Alignment) :=
  if line.contains '|' && line.contains '-' then
    columns? (pieces (· == '|') (withoutFirstBar line))
  else none

/-- The number of columns that the first line of a table has. -/
def headWidth (line : List Char) : Nat :=
  let parts := cutBars line
  let opened := match parts with
    | first :: _ :: _ => if first.isEmpty then 1 else 0
    | _ => 0
  let closed := if (parts.getLastD []).all isSpacing then 1 else 0
  parts.length - opened - closed

/-- A line is the head of a table if it has bars and the next one names as many columns. -/
def head? (line next : List Char) : Option (List Alignment) :=
  if (cutBars line).length ≤ 1 then none
  else
    match alignments? next with
    | some alignments => if alignments.length == headWidth line then some alignments else none
    | none => none

end Table

end Listings.Markdown
