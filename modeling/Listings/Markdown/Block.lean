/-
This file defines the blocks of a document.
-/

import Listings.Markdown.Reference
import Listings.Markdown.Table

namespace Listings.Markdown

/-- What a quote may be marked as. -/
inductive Alert where
  | note
  | tip
  | important
  | warning
  | caution
deriving DecidableEq

def Alert.name : Alert → String
  | note => "note"
  | tip => "tip"
  | important => "important"
  | warning => "warning"
  | caution => "caution"

def Alert.all : List Alert := [note, tip, important, warning, caution]

/-- The text of paragraphs, headings and cells is not read yet, since links in it may lead to
what is defined later. -/
inductive Block where
  | paragraph (task : Option Bool) (text : List Char)
  /-- A paragraph without tags of its own. -/
  | line (task : Option Bool) (text : List Char)
  | heading (level : Nat) (text : List Char)
  /-- Only code between signs has an info text. -/
  | code (info : Option (List Char)) (text : List Char)
  | markup (text : List Char)
  | rule
  | quote (alert : Option Alert) (blocks : List Block)
  | list (start : Option Nat) (items : List Block)
  | item (blocks : List Block)
  | table (alignments : List Alignment) (head : List (List Char)) (rows : List (List (List Char)))
deriving Inhabited

namespace Block

def tightParagraph : Block → Block
  | paragraph task text => line task text
  | block => block

/-- The paragraphs of an item in a tight list have no tags. -/
def tighten : Block → Block
  | item blocks => item (blocks.map tightParagraph)
  | block => block

end Block

/-- A container that is still open. -/
inductive FrameKind where
  | quote (alert : Option Alert)
  | list (sign : Start.ListSign) (isTight : Bool)
  | item (indent : Nat)

/-- The blocks of an open container, last one first. -/
structure Frame where
  kind : FrameKind
  blocks : List Block := []

namespace Frame

def container? (frame : Frame) : Option Container :=
  match frame.kind with
  | .quote _ => some .quote
  | .item indent => some (.item indent)
  | .list .. => none

def isList (frame : Frame) : Bool :=
  match frame.kind with
  | .list .. => true
  | _ => false

def isTightList (frame : Frame) : Bool :=
  match frame.kind with
  | .list _ isTight => isTight
  | _ => false

def isItem (frame : Frame) : Bool :=
  match frame.kind with
  | .item _ => true
  | _ => false

def block (frame : Frame) : Block :=
  let blocks := frame.blocks.reverse
  match frame.kind with
  | .quote alert => .quote alert blocks
  | .item _ => .item blocks
  | .list sign isTight => .list sign.number (if isTight then blocks.map Block.tighten else blocks)

def loosen (frame : Frame) : Frame :=
  match frame.kind with
  | .list sign _ => { frame with kind := .list sign false }
  | _ => frame

end Frame

/-- A document that was read up to a line. -/
structure Outline where
  /-- Open containers, innermost first. -/
  frames : List Frame := []
  /-- The blocks outside of them, last one first. -/
  blocks : List Block := []
  /-- A blank line came last. -/
  lastBlank : Bool := false
  /-- An item was opened by the last line that was not blank, with nothing in it. -/
  emptyItem : Bool := false
  references : References := []

namespace Outline

def add (block : Block) (outline : Outline) : Outline :=
  match outline.frames with
  | [] => { outline with blocks := block :: outline.blocks }
  | frame :: rest =>
      { outline with frames := { frame with blocks := block :: frame.blocks } :: rest }

def openFrame (kind : FrameKind) (outline : Outline) : Outline :=
  { outline with frames := { kind := kind } :: outline.frames }

/-- Closes the innermost container. -/
def closeFrame (outline : Outline) : Outline :=
  match outline.frames with
  | [] => outline
  | frame :: rest =>
      ({ outline with
        frames := rest, emptyItem := outline.emptyItem && !frame.isTightList }).add frame.block

/-- Closes containers until only so many are open. -/
def closeTo (count : Nat) (outline : Outline) : Outline :=
  (List.range (outline.frames.length - count)).foldl (fun outline _ => outline.closeFrame) outline

/-- How many frames, outermost first, stay open when a line goes on in so many containers. -/
def keptFrames : Nat → List Frame → Nat
  | _, [] => 0
  | entered, frame :: outer =>
      match frame.container?, entered with
      | none, entered => keptFrames entered outer + 1
      | some _, 0 => 0
      | some _, entered + 1 => keptFrames entered outer + 1

/-- The containers of a line, outermost first. -/
def containers (outline : Outline) : List Container :=
  (outline.frames.filterMap Frame.container?).reverse

def isTop (accepts : Frame → Bool) (outline : Outline) : Bool :=
  (outline.frames.head?).any accepts

/-- An item without anything in it ends with a blank line. -/
def closeEmptyItem (outline : Outline) : Outline :=
  let closed := if outline.emptyItem && outline.lastBlank && outline.isTop Frame.isItem then
    outline.closeFrame else outline
  { closed with emptyItem := false }

/-- A blank line before a block within an item makes the list loose. -/
def loosenOuter (outline : Outline) : Outline :=
  if outline.lastBlank then
    let frames := match outline.frames with
      | inner :: outer :: rest => inner :: outer.loosen :: rest
      | frames => frames
    { outline with frames := frames, lastBlank := false }
  else outline

/-- Ends a list that the next block does not belong to. -/
def closeList (outline : Outline) : Outline :=
  let ready := outline.closeEmptyItem
  (if ready.isTop Frame.isList then ready.closeFrame else ready).loosenOuter

/-- Goes on with a list that has the same mark, or opens one. -/
def continueList (sign : Start.ListSign) (outline : Outline) : Outline :=
  let ready := outline.closeEmptyItem
  let opened := { ready.closeList.openFrame (.list sign true) with lastBlank := false }
  match ready.frames with
  | ⟨.list known isTight, blocks⟩ :: rest =>
      if known.mark == sign.mark then
        { ready with
          frames := ⟨.list known (isTight && !ready.lastBlank), blocks⟩ :: rest
          lastBlank := false }
      else opened
  | _ => opened

def define (definition : References.Definition) (outline : Outline) : Outline :=
  { outline with references := outline.references ++ [(definition.label, definition.target)] }

end Outline

end Listings.Markdown
