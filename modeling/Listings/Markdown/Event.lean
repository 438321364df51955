/-
This file turns documents into events.
-/

import Listings.Markdown.Inline.Reader
import Listings.Markdown.Outline

namespace Listings.Markdown

/-- What a document is divided into. -/
inductive Region where
  | paragraph
  | heading (level : Nat)
  | quote (alert : Option Alert)
  /-- Only ordered lists have a start. -/
  | list (start : Option Nat)
  | item
  | table (alignments : List Alignment)
  | tableHead
  | tableRow
  | tableCell
  | emphasis
  | strong
  | deleted
  | link (kind : LinkKind) (target : Target)
  | image (target : Target)
  /-- Only code between signs has an info text. -/
  | code (info : Option String)
  | markup
  /-- A region of an extension that documents are read without, such as footnotes. -/
  | extension (name : String)
deriving Inhabited

inductive Event where
  | enter (region : Region)
  | leave (region : Region)
  | text (content : String)
  | code (content : String)
  | markup (content : String)
  | inlineMarkup (content : String)
  | softBreak
  | hardBreak
  | rule
  | task (isDone : Bool)
  /-- Something of an extension that documents are read without, such as formulas. -/
  | extension (name content : String)
deriving Inhabited

namespace Event

/-- Events within a region. -/
def within (region : Region) (events : List Event) : List Event :=
  enter region :: events ++ [leave region]

/-- Text that is empty makes no event. -/
def ofText (content : List Char) : List Event :=
  if content.isEmpty then [] else [text (String.ofList content)]

mutual

def ofInline : Inline → List Event
  | .text content => ofText content
  | .code content => [code (String.ofList content)]
  | .markup content => [inlineMarkup (String.ofList content)]
  | .softBreak => [softBreak]
  | .hardBreak => [hardBreak]
  | .emphasis children => within .emphasis (ofInlines children)
  | .strong children => within .strong (ofInlines children)
  | .deleted children => within .deleted (ofInlines children)
  | .link kind target children => within (.link kind target) (ofInlines children)
  | .image target children => within (.image target) (ofInlines children)

def ofInlines : List Inline → List Event
  | [] => []
  | first :: rest => ofInline first ++ ofInlines rest

end

section Blocks

variable (setting : Paragraph.Setting)

def ofContent (text : List Char) : List Event := ofInlines (Paragraph.read setting text)

def ofTask (task : Option Bool) : List Event := (task.map Event.task).toList

def ofCell (text : List Char) : List Event := within .tableCell (ofContent setting text)

mutual

def ofBlock : Block → List Event
  | .paragraph done content => within .paragraph (ofTask done ++ ofContent setting content)
  | .line done content => ofTask done ++ ofContent setting content
  | .heading level content => within (.heading level) (ofContent setting content)
  | .code info content => within (.code (info.map String.ofList)) (ofText content)
  | .markup content => within .markup [markup (String.ofList content)]
  | .rule => [rule]
  | .quote alert blocks => within (.quote alert) (ofBlocks blocks)
  | .list start items => within (.list start) (ofBlocks items)
  | .item blocks => within .item (ofBlocks blocks)
  | .table alignments head rows =>
      within (.table alignments)
        (within .tableHead (head.flatMap (ofCell setting)) ++
          rows.flatMap fun cells => within .tableRow (cells.flatMap (ofCell setting)))

def ofBlocks : List Block → List Event
  | [] => []
  | first :: rest => ofBlock first ++ ofBlocks rest

end

end Blocks

/-- The events of a document; the extensions of GitHub are read only if asked for. -/
def ofDocument (extended : Bool) (document : String) : List Event :=
  let outline := Outline.read extended document.toList
  ofBlocks ⟨outline.references, extended⟩ outline.blocks.reverse

end Event

end Listings.Markdown
