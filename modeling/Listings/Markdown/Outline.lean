/-
This file reads the blocks of a document line by line.
-/

import Listings.Markdown.Block
import Listings.Markdown.Start

namespace Listings.Markdown.Outline

open Text

/-- The lines that are still to be read. -/
abbrev Lines := List SourceLine

def dropEndWhile (accepts : Char → Bool) (text : List Char) : List Char :=
  (text.reverse.dropWhile accepts).reverse

/-! Code -/

/-- The lines of indented code, with their ends, and whether the last of them is blank. -/
def indentedLines (containers : List Container) : Lines → List (List Char × Bool) × Lines
  | [] => ([], [])
  | line :: rest =>
      let entered := line.enter containers
      let (missing, margin) := entered.margin.takeColumns 4
      if entered.isInside && (missing == 0 || margin.isAtEnd) then
        let (others, last) := indentedLines containers rest
        ((margin.text ++ line.textEnding, margin.isBlank) :: others, last)
      else ([], line :: rest)

/-- Blank lines at its end do not belong to indented code. -/
def readIndented (outline : Outline) (line : SourceLine) (margin : Margin) (rest : Lines) :
    Outline × Lines :=
  let first := margin.text ++ line.textEnding
  let (others, last) := indentedLines outline.containers rest
  let kept := ((others.reverse.dropWhile Prod.snd).reverse).map Prod.fst
  let endsBlank := (others.getLast?).any Prod.snd
  ({ outline.add (.code none (first ++ kept.flatten)) with lastBlank := endsBlank }, last)

/-- The lines up to the sign that closes a block of code. -/
def fencedLines (containers : List Container) (sign : Start.FenceSign) (indent : Nat) :
    Lines → List (List Char) × Lines
  | [] => ([], [])
  | line :: rest =>
      let entered := line.enter containers
      if !entered.isInside then ([], line :: rest)
      else
        let (outer, inner) := entered.margin.measure 4
        if outer < 4 && Start.closes sign inner.rest then ([], rest)
        else
          let margin := (entered.margin.takeColumns indent).2
          let (others, last) := fencedLines containers sign indent rest
          ((margin.text ++ line.textEnding) :: others, last)

/-- The text behind the sign that opens a block of code. -/
def infoText (sign : Start.FenceSign) (text : List Char) : List Char :=
  unescape (dropEndWhile isAsciiBlank ((text.drop sign.length).dropWhile isSpacing))

def readFenced (outline : Outline) (sign : Start.FenceSign) (indent : Nat) (text : List Char)
    (rest : Lines) : Outline × Lines :=
  let (content, last) := fencedLines outline.containers sign indent rest
  (outline.add (.code (some (infoText sign text)) content.flatten), last)

/-! Raw markup -/

/-- The lines up to the one that holds a marker. -/
def markedLines (containers : List Container) (marker : String) (current : List Char) :
    Lines → List (List Char) × Lines
  | [] => ([current], [])
  | line :: rest =>
      let entered := line.enter containers
      if !entered.isInside || (cut? marker.toList current).isSome then ([current], line :: rest)
      else
        let (others, last) :=
          markedLines containers marker (entered.margin.text ++ line.textEnding) rest
        (current :: others, last)

/-- The lines up to a blank one. -/
def unbrokenLines (containers : List Container) : Lines → List (List Char) × Lines
  | [] => ([], [])
  | line :: rest =>
      let entered := line.enter containers
      if !entered.isInside || entered.margin.isBlank then ([], line :: rest)
      else
        let (others, last) := unbrokenLines containers rest
        ((entered.margin.text ++ line.textEnding) :: others, last)

def readMarkup (outline : Outline) (finish : Start.MarkupEnd) (first : List Char) (rest : Lines) :
    Outline × Lines :=
  let (content, last) := match finish with
    | .marker marker => markedLines outline.containers marker first rest
    | .blankLine =>
        let (others, last) := unbrokenLines outline.containers rest
        (first :: others, last)
  (outline.add (.markup content.flatten), last)

/-! Headings and paragraphs -/

/-- The text of a heading, whose closing signs need a space before them. -/
def headingText (level : Nat) (text : List Char) : List Char :=
  let whole := dropEndWhile (· == ' ') ((text.drop level).dropWhile isSpacing)
  let body := dropEndWhile (· == '#') whole
  let kept := if body.isEmpty || body.getLast? == some ' ' then body else whole
  dropEndWhile isSpacing kept

/-- Lines that go on with a paragraph. -/
structure Continuation where
  lines : List SourceLine
  texts : List (List Char)
  /-- The level of the heading that the paragraph becomes by its last line. -/
  underline : Option Nat
  rest : Lines

def continuation (containers : List Container) : Lines → Continuation
  | [] => ⟨[], [], none, []⟩
  | line :: rest =>
      let entered := line.enter containers
      let (indent, margin) := entered.margin.measure 4
      let level := if indent < 4 && entered.isInside then Start.underlineLevel? margin.rest
        else none
      match level with
      | some level => ⟨[], [], some level, rest⟩
      | none =>
          if margin.isBlank || (indent < 4 && Start.interrupts entered.isInside false margin) then
            ⟨[], [], none, line :: rest⟩
          else
            let further := continuation containers rest
            { further with
              lines := line :: further.lines
              texts := entered.margin.rest :: further.texts }

/-- The rows of a table. -/
def tableRows (containers : List Container) (width : Nat) :
    Lines → List (List (List Char)) × Lines
  | [] => ([], [])
  | line :: rest =>
      let entered := line.enter containers
      let text := entered.margin.rest.dropWhile isSpacing
      if !entered.isInside || text.isEmpty || Start.interrupts true true { rest := text } then
        ([], line :: rest)
      else
        let (others, last) := tableRows containers width rest
        (Table.fit width (Table.cells text) :: others, last)

/-- The table whose head stands in this line. -/
def table? (outline : Outline) (text : List Char) (rest : Lines) : Option (Outline × Lines) :=
  match rest with
  | [] => none
  | next :: more =>
      let entered := next.enter outline.containers
      let (indent, margin) := entered.margin.measure 4
      if entered.isInside && indent < 4 then
        (Table.head? text margin.rest).map fun alignments =>
          let (rows, last) := tableRows outline.containers alignments.length more
          let head := Table.fit alignments.length (Table.cells text)
          (outline.add (.table alignments head rows), last)
      else none

/-- A paragraph, or the heading that an underline makes of it. -/
def readParagraph (extended : Bool) (outline : Outline) (task : Option Bool) (line : SourceLine)
    (text : List Char) (rest : Lines) : Outline × Lines :=
  match if extended then table? outline text rest else none with
  | some result => result
  | none =>
      let further := continuation outline.containers rest
      let whole := Text.join ['\n'] (text :: further.texts)
      let isTerminated := (further.lines.getLastD line).isTerminated
      let content := if isTerminated then dropEndWhile isSpacing whole else whole
      let block := match further.underline with
        | some level => Block.heading level content
        | none => .paragraph task content
      (outline.add block, further.rest)

/-- A definition of a label stands for nothing itself. -/
def readDefinition? (outline : Outline) (text : List Char) (rest : Lines) :
    Option (Outline × Lines) :=
  let texts := text :: (continuation outline.containers rest).texts
  (References.definition? (Text.join ['\n'] texts)).map fun (definition, after) =>
    let left := if after.isEmpty then 0 else (lines after).length
    (outline.define definition, rest.drop (texts.length - left - 1))

/-! Containers -/

/-- What is left of a line behind the signs that open containers. -/
inductive LineRest where
  | text (margin : Margin)
  /-- A paragraph that is a task. -/
  | task (isDone : Bool) (margin : Margin)
  | nothing

/-- The alert that a quote is marked as, if the mark stands alone. -/
def alert? (margin : Margin) : Option Alert :=
  Alert.all.find? fun alert =>
    (dropStart? ("[!" ++ alert.name ++ "]").toList (margin.rest.map Start.lowerLetter)).any
      fun rest => rest.all isSpacing

/-- Opens a quote, whose sign was read. -/
def openQuote (extended : Bool) (outline : Outline) (margin : Margin) : Outline × Margin :=
  let alert := if extended && margin.pending == 0 then alert? margin else none
  let opened := outline.closeList.openFrame (.quote alert)
  (opened, if alert.isSome then { rest := [] } else margin)

/-- Opens the containers whose signs stand in a line, at most `fuel` of them. -/
def openContainers (extended : Bool) : Nat → Outline → Margin → Outline × LineRest
  | 0, outline, margin => (outline, .text margin)
  | fuel + 1, outline, margin =>
      let (outer, inner) := margin.measure 4
      if 4 ≤ outer then (outline, .text margin)
      else
        match Start.item? outer inner with
        | some (sign, indent, after) =>
            let opened := (outline.continueList sign).openFrame (.item indent)
            if after.isBlank then ({ opened with emptyItem := true }, .nothing)
            else
              match if extended then Start.task? after else none with
              | some (isDone, behind) =>
                  if behind.isBlank then
                    ({ opened.add (.line (some isDone) []) with emptyItem := true }, .nothing)
                  else (opened, .task isDone behind)
              | none => openContainers extended fuel opened after
        | none =>
            match Container.quoteMargin? inner with
            | some after =>
                let (opened, behind) := openQuote extended outline after
                openContainers extended fuel opened behind
            | none => (outline, .text margin)

/-- A blank line; it asks nothing of a quote, and ends the indent of an empty item. -/
def readBlank (outline : Outline) : Outline :=
  match outline.frames with
  | ⟨.quote _, _⟩ :: _ => outline
  | ⟨.item indent, blocks⟩ :: outer =>
      let kept := if outline.emptyItem then 0 else indent
      { outline with frames := ⟨.item kept, blocks⟩ :: outer, lastBlank := true }
  | _ => { outline with lastBlank := true }

/-- Reads a block that is no container. -/
def readLeaf (extended : Bool) (outline : Outline) (line : SourceLine) (margin : Margin)
    (rest : Lines) : Outline × Lines :=
  let (indent, inner) := margin.measure 4
  let text := inner.rest
  let ready := outline.closeList
  if 4 ≤ indent then readIndented ready line inner rest
  else
    match Start.markup? false text with
    | some finish =>
        readMarkup ready finish (List.replicate indent ' ' ++ text ++ line.textEnding) rest
    | none =>
        if Start.isRule text then (ready.add .rule, rest)
        else
          match Start.headingLevel? text with
          | some level => (ready.add (.heading level (headingText level text)), rest)
          | none =>
              match Start.fence? text with
              | some sign => readFenced ready sign indent text rest
              | none =>
                  match readDefinition? ready text rest with
                  | some result => result
                  | none => readParagraph extended ready none line text rest

/-- Reads the block that starts in a line. -/
def readBlock (extended : Bool) (outline : Outline) (line : SourceLine) (rest : Lines) :
    Outline × Lines :=
  let (entered, margin) := Container.enterAll outline.containers line.margin
  let kept := outline.closeTo (keptFrames entered outline.frames.reverse)
  let (opened, lineRest) := openContainers extended (margin.rest.length + 1) kept margin
  match lineRest with
  | .nothing => (opened, rest)
  | .task isDone behind =>
      readParagraph extended opened (some isDone) line (behind.rest.dropWhile isSpacing) rest
  | .text margin =>
      if margin.isBlank then (opened.readBlank, rest)
      else readLeaf extended opened line margin rest

/-- Reads the rest of the lines; each step takes at least one of them. -/
def readLines (extended : Bool) : Nat → Outline → Lines → Outline
  | 0, outline, _ => outline
  | _, outline, [] => outline
  | fuel + 1, outline, line :: rest =>
      let (next, last) := readBlock extended outline line rest
      readLines extended fuel next last

/-- The outline of a whole document, with no container open. -/
def read (extended : Bool) (text : List Char) : Outline :=
  let lines := SourceLine.split text
  (readLines extended lines.length {} lines).closeTo 0

end Listings.Markdown.Outline
