/-
This file writes events as HTML.
-/

import Listings.Markdown.Event
import Listings.Text.Number

namespace Listings.Markdown

open Text

/-- Where the writer stands in a table. -/
structure TablePlace where
  alignments : List Alignment := []
  inHead : Bool := false
  cell : Nat := 0

/-- What was written, last part first. -/
structure Writer where
  written : List (List Char) := []
  /-- Whether a line was just ended, or nothing was written yet. -/
  atLineStart : Bool := true
  table : TablePlace := {}
  /-- So many regions are open within an image, whose text is all that is written of them. -/
  imageDepth : Option Nat := none
  /-- The title of that image. -/
  imageTitle : List Char := []

namespace Writer

/-- In text, only the signs of markup are escaped. -/
def escapeText (text : List Char) : List Char :=
  text.flatMap fun
    | '&' => "&amp;".toList
    | '<' => "&lt;".toList
    | '>' => "&gt;".toList
    | c => [c]

/-- In attributes, quotes are escaped as well. -/
def escapeAttribute (text : List Char) : List Char :=
  text.flatMap fun
    | '"' => "&quot;".toList
    | '\'' => "&#39;".toList
    | c => escapeText [c]

/-- Besides letters and digits, an address may hold these characters. -/
def plainAddressChars : List Char := "!#$%()*+,-./:;=?@_~".toList

def upperHexDigits : List Char := "0123456789ABCDEF".toList

/-- A byte behind a percent sign. -/
def percentByte (byte : UInt8) : List Char :=
  ['%', upperHexDigits.getD (byte.toNat / 16) '0', upperHexDigits.getD (byte.toNat % 16) '0']

def escapeAddressChar (c : Char) : List Char :=
  if isAsciiAlphanumeric c || plainAddressChars.contains c then [c]
  else if c == '&' then "&amp;".toList
  else if c == '\'' then "&#x27;".toList
  else (String.singleton c).toUTF8.data.toList.flatMap percentByte

def escapeAddress (text : List Char) : List Char := text.flatMap escapeAddressChar

def write (text : List Char) (writer : Writer) : Writer :=
  if text.isEmpty then writer
  else { writer with
    written := text :: writer.written
    atLineStart := text.getLast? == some '\n' }

def writeText (text : String) (writer : Writer) : Writer := writer.write text.toList

/-- Ends the line before the text, unless that was done. -/
def writeOnNewLine (text : String) (writer : Writer) : Writer :=
  if writer.atLineStart then writer.writeText text else writer.writeText ("\n" ++ text)

def alignmentStyle : Alignment → String
  | .none => ""
  | .left => " style=\"text-align: left\""
  | .center => " style=\"text-align: center\""
  | .right => " style=\"text-align: right\""

def cellTag (writer : Writer) : String := if writer.table.inHead then "th" else "td"

def alertClass : Option Alert → String
  | none => ""
  | some alert => " class=\"markdown-alert-" ++ alert.name ++ "\""

def titleAttribute (title : List Char) : List Char :=
  if title.isEmpty then [] else " title=\"".toList ++ escapeAttribute title ++ ['"']

def linkStart (kind : LinkKind) (target : Target) : List Char :=
  "<a href=\"".toList ++ (if kind == .email then "mailto:".toList else []) ++
    escapeAddress target.destination ++ '"' :: titleAttribute target.title ++ ['>']

def heading (level : Nat) : String := "h" ++ toString level

/-- Nothing is written of extensions that documents are read without. -/
def enter (region : Region) (writer : Writer) : Writer :=
  match region with
  | .paragraph => writer.writeOnNewLine "<p>"
  | .heading level => writer.writeOnNewLine ("<" ++ heading level ++ ">")
  | .quote alert => writer.writeOnNewLine ("<blockquote" ++ alertClass alert ++ ">\n")
  | .list none => writer.writeOnNewLine "<ul>\n"
  | .list (some 1) => writer.writeOnNewLine "<ol>\n"
  | .list (some start) => writer.writeOnNewLine ("<ol start=\"" ++ toString start ++ "\">\n")
  | .item => writer.writeOnNewLine "<li>"
  | .table alignments =>
      { writer with table := { alignments := alignments } }.writeText "<table>"
  | .tableHead =>
      { writer with table := { writer.table with inHead := true, cell := 0 } }.writeText
        "<thead><tr>"
  | .tableRow => { writer with table := { writer.table with cell := 0 } }.writeText "<tr>"
  | .tableCell =>
      let alignment := writer.table.alignments.getD writer.table.cell .none
      writer.writeText ("<" ++ writer.cellTag ++ alignmentStyle alignment ++ ">")
  | .emphasis => writer.writeText "<em>"
  | .strong => writer.writeText "<strong>"
  | .deleted => writer.writeText "<del>"
  | .link kind target => writer.write (linkStart kind target)
  | .image target =>
      { writer with imageDepth := some 0, imageTitle := target.title }.write
        ("<img src=\"".toList ++ escapeAddress target.destination ++ "\" alt=\"".toList)
  | .code _ => writer.writeOnNewLine "<pre><code>"
  | .markup | .extension _ => writer

def leave (region : Region) (writer : Writer) : Writer :=
  match region with
  | .paragraph => writer.writeText "</p>\n"
  | .heading level => writer.writeText ("</" ++ heading level ++ ">\n")
  | .quote _ => writer.writeText "</blockquote>\n"
  | .list none => writer.writeText "</ul>\n"
  | .list (some _) => writer.writeText "</ol>\n"
  | .item => writer.writeText "</li>\n"
  | .table _ => writer.writeText "</tbody></table>\n"
  | .tableHead =>
      { writer with table := { writer.table with inHead := false } }.writeText
        "</tr></thead><tbody>\n"
  | .tableRow => writer.writeText "</tr>\n"
  | .tableCell =>
      let written := writer.writeText ("</" ++ writer.cellTag ++ ">")
      { written with table := { written.table with cell := written.table.cell + 1 } }
  | .emphasis => writer.writeText "</em>"
  | .strong => writer.writeText "</strong>"
  | .deleted => writer.writeText "</del>"
  | .link .. => writer.writeText "</a>"
  | .image _ => writer
  | .code _ => writer.writeText "</code></pre>\n"
  | .markup | .extension _ => writer

/-- Writes what an image is described by, up to its end. -/
def addWithinImage (depth : Nat) (event : Event) (writer : Writer) : Writer :=
  match event with
  | .enter _ => { writer with imageDepth := some (depth + 1) }
  | .leave _ =>
      match depth with
      | outer + 1 => { writer with imageDepth := some outer }
      | 0 =>
          { writer with imageDepth := none }.write
            ('"' :: titleAttribute writer.imageTitle ++ " />".toList)
  | .markup _ | .extension .. => writer
  | .inlineMarkup text | .code text | .text text => writer.write (escapeAttribute text.toList)
  | .softBreak | .hardBreak | .rule => writer.writeText " "
  | .task true => writer.writeText "[x]"
  | .task false => writer.writeText "[ ]"

def addPlainly (event : Event) (writer : Writer) : Writer :=
  match event with
  | .enter region => writer.enter region
  | .leave region => writer.leave region
  | .text text => writer.write (escapeText text.toList)
  | .code text => writer.write ("<code>".toList ++ escapeText text.toList ++ "</code>".toList)
  | .markup text | .inlineMarkup text => writer.writeText text
  | .softBreak => writer.writeText "\n"
  | .hardBreak => writer.writeText "<br />\n"
  | .rule => writer.writeOnNewLine "<hr />\n"
  | .task true =>
      writer.writeText "<input disabled=\"\" type=\"checkbox\" checked=\"\"/>\n"
  | .task false => writer.writeText "<input disabled=\"\" type=\"checkbox\"/>\n"
  | .extension .. => writer

def add (writer : Writer) (event : Event) : Writer :=
  match writer.imageDepth with
  | some depth => writer.addWithinImage depth event
  | none => writer.addPlainly event

def text (writer : Writer) : List Char := writer.written.reverse.flatten

end Writer

/-- The HTML of events. -/
def Event.toHtml (events : List Event) : String :=
  String.ofList (events.foldl Writer.add {}).text

end Listings.Markdown
