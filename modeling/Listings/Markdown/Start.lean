/-
This file recognizes how blocks start and end.
-/

import Listings.Markdown.Line
import Listings.Markdown.Tag

namespace Listings.Markdown.Start

open Text

/-- Three or more equal signs with nothing but blanks among them. -/
def isRule (text : List Char) : Bool :=
  match text with
  | [] => false
  | c :: _ =>
      (c == '*' || c == '-' || c == '_') &&
        text.all (fun d => d == c || d == ' ' || d == '\t') &&
        3 ≤ (text.filter (· == c)).length

/-- The level of a heading that signs open. -/
def headingLevel? (text : List Char) : Option Nat :=
  let level := (text.takeWhile (· == '#')).length
  let isEnded := ((text.drop level).head?).all isSpacing
  if 1 ≤ level && level ≤ 6 && isEnded then some level else none

/-- The level of a heading that is underlined. -/
def underlineLevel? (text : List Char) : Option Nat :=
  match text with
  | [] => none
  | c :: _ =>
      if (text.dropWhile (· == c)).all isSpacing then
        if c == '=' then some 1 else if c == '-' then some 2 else none
      else none

/-- The signs that open and close a block of code. -/
structure FenceSign where
  mark : Char
  length : Nat

/-- No backtick may follow a sign of backticks. -/
def fence? (text : List Char) : Option FenceSign :=
  match text with
  | [] => none
  | c :: _ =>
      let length := (text.takeWhile (· == c)).length
      let isSign := c == '~' || (c == '\x60' && !(text.drop length).contains '\x60')
      if isSign && 3 ≤ length then some ⟨c, length⟩ else none

/-- Only spaces may follow the sign that closes. -/
def closes (sign : FenceSign) (text : List Char) : Bool :=
  sign.length ≤ (text.takeWhile (· == sign.mark)).length &&
    (text.dropWhile (· == sign.mark)).all (· == ' ')

/-- How the items of a list are marked. -/
structure ListSign where
  /-- Items with the same mark belong together. -/
  mark : Char
  /-- Only numbers have one. -/
  number : Option Nat
deriving DecidableEq

/-- The sign of an item and how wide it is. -/
def listSign? (text : List Char) : Option (ListSign × Nat) :=
  match text with
  | [] => none
  | c :: _ =>
      if c == '-' || c == '+' || c == '*' then
        if isRule text then none else some (⟨c, none⟩, 1)
      else
        let digits := text.takeWhile isDigit
        match text.drop digits.length with
        | d :: _ =>
            if !digits.isEmpty && digits.length ≤ 9 && (d == '.' || d == ')') then
              some (⟨d, some (decimalValue digits)⟩, digits.length + 1)
            else none
        | [] => none

/-- The sign of an item, the columns that its text stands away, and the place of the text. -/
def item? (outer : Nat) (margin : Margin) : Option (ListSign × Nat × Margin) := do
  let (sign, width) ← listSign? margin.rest
  let after := margin.skip width
  if after.isAtEnd then pure (sign, outer + width + 1, after)
  else
    let inner ← after.past? 1
    if inner.isBlank then pure (sign, outer + width + 1, inner)
    else
      let (more, text) := inner.measure 4
      if more < 4 then pure (sign, outer + width + 1 + more, text)
      else pure (sign, outer + width + 1, inner)

/-- The marker of a task: whether it is done, and the place behind it. -/
def task? (margin : Margin) : Option (Bool × Margin) :=
  let inner := (margin.measure 3).2
  match inner.rest with
  | '[' :: c :: ']' :: d :: _ =>
      let isDone := c == 'x' || c == 'X'
      if (isDone || isSpacing c) && isSpacing d then some (isDone, inner.skip 3) else none
  | _ => none

/-- Tags that begin a block wherever they stand. -/
def blockTags : List String := [
  "address", "article", "aside", "base", "basefont", "blockquote", "body", "caption", "center",
  "col", "colgroup", "dd", "details", "dialog", "dir", "div", "dl", "dt", "fieldset", "figcaption",
  "figure", "footer", "form", "frame", "frameset", "h1", "h2", "h3", "h4", "h5", "h6", "head",
  "header", "hr", "html", "iframe", "legend", "li", "link", "main", "menu", "menuitem", "nav",
  "noframes", "ol", "optgroup", "option", "p", "param", "search", "section", "summary", "table",
  "tbody", "td", "tfoot", "th", "thead", "title", "tr", "track", "ul"]

def lowerLetter (c : Char) : Char :=
  if 'A' ≤ c && c ≤ 'Z' then Char.ofNat (c.toNat + 32) else c

/-- Tags whose content is raw up to their end. -/
def rawTags : List String := ["pre", "style", "script", "textarea"]

/-- The text that ends a block which starts with a raw tag. -/
def rawTagEnd? (text : List Char) : Option String :=
  rawTags.find? (fun tag =>
    (dropStart? tag.toList (text.map lowerLetter)).any fun rest =>
      rest.head?.all fun c => isAsciiBlank c || c == '>')
  |>.map fun tag => "</" ++ tag ++ ">"

/-- The text that ends a block of raw markup whose `<` was read. -/
def markupEnd? (text : List Char) : Option String :=
  (rawTagEnd? text).or <|
    match text with
    | '!' :: '-' :: '-' :: _ => some "-->"
    | '?' :: _ => some "?>"
    | '!' :: '[' :: rest =>
        if (dropStart? "CDATA[".toList rest).isSome then some "]]>" else none
    | '!' :: c :: _ => if isAsciiLetter c then some ">" else none
    | _ => none

/-- A tag of a block stands here, whose `<` was read. -/
def isBlockTag (text : List Char) : Bool :=
  let inner := (dropStart? ['/'] text).getD text
  let name := inner.takeWhile isAsciiAlphanumeric
  blockTags.contains (String.ofList (name.map lowerLetter)) &&
    match inner.drop name.length with
    | [] => true
    | '/' :: '>' :: _ => true
    | c :: _ => c == ' ' || c == '\t' || c == '>'

/-- Nothing but one tag stands here, whose `<` was read. -/
def isLoneTag (text : List Char) : Bool := (Tag.after? text).any fun rest => rest.all isSpacing

/-- How a block of raw markup ends. -/
inductive MarkupEnd where
  /-- With the line that holds a text. -/
  | marker (text : String)
  /-- Before a blank line. -/
  | blankLine

/-- A block of markup starts here; a tag of any name can only start one outside of paragraphs. -/
def markup? (withinParagraph : Bool) (text : List Char) : Option MarkupEnd :=
  match text with
  | '<' :: rest =>
      match markupEnd? rest with
      | some marker => some (.marker marker)
      | none =>
          if isBlockTag rest || (!withinParagraph && isLoneTag rest) then some .blankLine else none
  | _ => none

/-- A paragraph ends before this line; of lists only those with a plain start end it from inside. -/
def interrupts (isInside inTable : Bool) (margin : Margin) : Bool :=
  let text := margin.rest
  isRule text || (headingLevel? text).isSome || (fence? text).isSome || text.head? == some '>' ||
    (markup? true text).isSome ||
    match item? 0 margin with
    | none => false
    | some (sign, _, inner) =>
        !isInside || inTable || (sign.number.all (· == 1) && !inner.isBlank)

end Listings.Markdown.Start
