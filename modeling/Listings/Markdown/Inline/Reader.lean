/-
This file reads the content of a paragraph.
-/

import Listings.Markdown.Inline
import Listings.Markdown.Inline.Autolink
import Listings.Markdown.Tag

namespace Listings.Markdown

open Text

/-- A bracket that may begin a link. -/
structure Bracket where
  isImage : Bool
  /-- Links do not stand in links. -/
  isActive : Bool
  /-- The text behind the bracket. -/
  after : List Char
  /-- The pieces before it, last one first. -/
  pieces : List Piece

/-- What was read of a paragraph. -/
structure Scan where
  before : Option Char := none
  /-- Plain text that is no piece yet, last character first. -/
  pending : List Char := []
  /-- The pieces behind the last open bracket, last one first. -/
  pieces : List Piece := []
  brackets : List Bracket := []

namespace Scan

def flush (scan : Scan) : Scan :=
  if scan.pending.isEmpty then scan
  else { scan with
    pending := []
    pieces := .inline (.text scan.pending.reverse) :: scan.pieces }

def push (piece : Piece) (scan : Scan) : Scan :=
  { scan.flush with pieces := piece :: scan.flush.pieces }

def add (content : Inline) (scan : Scan) : Scan := scan.push (.inline content)

/-- Reads a character as it is. -/
def plain (c : Char) (scan : Scan) : Scan :=
  { scan with before := some c, pending := c :: scan.pending }

/-- What was read last is this character. -/
def behind (c : Char) (scan : Scan) : Scan := { scan with before := some c }

/-- Ends the line; blanks at its end are left out and may break it. -/
def endLine (scan : Scan) : Scan :=
  let kept := scan.pending.dropWhile isSpacing
  let blanks := scan.pending.length - kept.length
  let broken := { scan with pending := kept }
  (broken.add (if 2 ≤ blanks then .hardBreak else .softBreak)).behind '\n'

def openBracket (isImage : Bool) (after : List Char) (scan : Scan) : Scan :=
  let bracket : Bracket := ⟨isImage, true, after, scan.flush.pieces⟩
  { before := some '[', brackets := bracket :: scan.brackets }

def bracketText (bracket : Bracket) : List Char := if bracket.isImage then ['!', '['] else ['[']

/-- The pieces with a bracket that begins no link among them. -/
def unbracketed (bracket : Bracket) (pieces : List Piece) : List Piece :=
  pieces ++ .inline (.text (bracketText bracket)) :: bracket.pieces

def deactivate (brackets : List Bracket) : List Bracket :=
  brackets.map fun bracket => { bracket with isActive := bracket.isImage && bracket.isActive }

/-- Puts a link in place of what stands behind its bracket. -/
def closeLink (bracket : Bracket) (outer : List Bracket) (target : Target) (scan : Scan) : Scan :=
  let children := Inline.ofPieces scan.flush.pieces.reverse
  let link := if bracket.isImage then Inline.image target children
    else .link .plain target children
  { before := some ')'
    pieces := .inline link :: bracket.pieces
    brackets := if bracket.isImage then outer else deactivate outer }

/-- The pieces of the whole text, first one first. -/
def finish (scan : Scan) : List Piece :=
  (scan.brackets.foldl (fun pieces bracket => unbracketed bracket pieces)
    scan.flush.pieces).reverse

end Scan

namespace Paragraph

/-- What decides how the content of paragraphs is read. -/
structure Setting where
  references : References
  /-- Whether tildes strike text out. -/
  strikesOut : Bool

/-- Parentheses in the destination of a link nest no deeper than this. -/
def depthLimit : Nat := 32

/-- Text without the blanks at its start, where one line may end. -/
def dropGap (text : List Char) : List Char :=
  match text.dropWhile isSpacing with
  | '\n' :: rest => rest.dropWhile isSpacing
  | rest => rest

/-- The target in parentheses, and what follows it. -/
def inlineTarget? (text : List Char) : Option (Target × List Char) :=
  match text with
  | '(' :: rest => do
      let (destination, after) ← Target.destination? depthLimit (dropGap rest)
      let start := dropGap after
      let (title, last) := match Target.title? start with
        | some (title, more) => (title, dropGap more)
        | none => ([], start)
      match last with
      | ')' :: more => pure (⟨unescape destination, title⟩, more)
      | _ => none
  | _ => none

/-- The target of the label between a bracket and the text behind the bracket that closes it. -/
def ownTarget? (references : References) (bracket : Bracket) (rest : List Char) :
    Option Target := do
  let (label, after) ← References.label? bracket.after
  if after.length == rest.length then references.find? label else none

/-- The target that a label refers to, and what follows it. -/
def referredTarget? (references : References) (bracket : Bracket) (rest : List Char) :
    Option (Target × List Char) :=
  match rest with
  | '[' :: ']' :: more => (ownTarget? references bracket rest).map fun target => (target, more)
  | '[' :: label =>
      match References.label? label with
      | some (name, more) => (references.find? name).map fun target => (target, more)
      | none => (ownTarget? references bracket rest).map fun target => (target, rest)
  | _ => (ownTarget? references bracket rest).map fun target => (target, rest)

/-- Reads a bracket that may end a link. -/
def closeBracket (setting : Setting) (scan : Scan) (rest : List Char) : Scan × List Char :=
  match scan.brackets with
  | [] => (scan.plain ']', rest)
  | bracket :: outer =>
      let target := if bracket.isActive then
          (inlineTarget? rest).or (referredTarget? setting.references bracket rest)
        else none
      match target with
      | some (target, more) => (scan.closeLink bracket outer target, more)
      | none =>
          let opened := { scan.flush with
            pieces := Scan.unbracketed bracket scan.flush.pieces, brackets := outer }
          (opened.plain ']', rest)

/-- What stands before the next run of exactly so many backticks, and what follows that run. -/
def codeEnd? (length : Nat) : Nat → List Char → Option (List Char × List Char)
  | 0, _ => none
  | _, [] => none
  | fuel + 1, c :: rest =>
      if c == '\x60' then
        let run := (c :: rest).takeWhile (· == '\x60')
        let after := (c :: rest).drop run.length
        if run.length == length then some ([], after)
        else (codeEnd? length fuel after).map fun found => (run ++ found.1, found.2)
      else (codeEnd? length fuel rest).map fun found => (c :: found.1, found.2)

/-- Code on one line, without one space on both sides unless it is all spaces. -/
def codeText (text : List Char) : List Char :=
  let line := text.map fun c => if c == '\n' then ' ' else c
  if line.all (· == ' ') then line else (unwrap? ' ' ' ' line).getD line

def readCode (scan : Scan) (text : List Char) : Scan × List Char :=
  let run := text.takeWhile (· == '\x60')
  let after := text.drop run.length
  match codeEnd? run.length after.length after with
  | some (content, rest) => ((scan.add (.code (codeText content))).behind '\x60', rest)
  | none => (run.foldl (fun scan c => scan.plain c) scan, after)

/-- The address of a link that is its own text. -/
def addressLink (kind : LinkKind) (address : List Char) : Inline :=
  .link kind ⟨address, []⟩ [.text address]

/-- Reads what an angle bracket begins, which was read itself. -/
def readAngle (scan : Scan) (rest : List Char) : Scan × List Char :=
  match Autolink.uri? rest with
  | some (address, after) => ((scan.add (addressLink .plain address)).behind '>', after)
  | none =>
      match Autolink.email? rest with
      | some (address, after) => ((scan.add (addressLink .email address)).behind '>', after)
      | none =>
          match Tag.afterMarkup? rest with
          | some after =>
              let content := '<' :: rest.take (rest.length - after.length)
              ((scan.add (.markup content)).behind '>', after)
          | none => (scan.plain '<', rest)

/-- Reads equal signs in a row. -/
def readRun (scan : Scan) (mark : Char) (text : List Char) : Scan × List Char :=
  let signs := text.takeWhile (· == mark)
  let after := text.drop signs.length
  let run := Run.between mark signs.length scan.before after.head?
  if (run.opens || run.closes) && (mark != '~' || signs.length ≤ 2) then
    ((scan.push (.run run)).behind mark, after)
  else (signs.foldl (fun scan c => scan.plain c) scan, after)

/-- Text without the blanks that a line starts with. -/
def dropMargin (text : List Char) : List Char :=
  text.dropWhile fun c => c == ' ' || c == '\t'

/-- Reads at least the first character of a text that is not empty. -/
def step (setting : Setting) (scan : Scan) (c : Char) (rest : List Char) : Scan × List Char :=
  match c with
  | '\n' => (scan.endLine, dropMargin rest)
  | '\\' =>
      match rest with
      | '\n' :: more => ((scan.add .hardBreak).behind '\n', dropMargin more)
      | d :: more =>
          if isAsciiPunctuation d then (scan.plain d, more) else (scan.plain '\\', rest)
      | [] => (scan.plain '\\', rest)
  | '\x60' => readCode scan (c :: rest)
  | '<' => readAngle scan rest
  | '&' =>
      match Entity.read? rest with
      | some (value, after) => ((scan.add (.text value)).behind ';', after)
      | none => (scan.plain '&', rest)
  | '!' =>
      match rest with
      | '[' :: more => (scan.openBracket true more, more)
      | _ => (scan.plain '!', rest)
  | '[' => (scan.openBracket false rest, rest)
  | ']' => closeBracket setting scan rest
  | '*' | '_' => readRun scan c (c :: rest)
  | '~' => if setting.strikesOut then readRun scan c (c :: rest) else (scan.plain c, rest)
  | _ => (scan.plain c, rest)

def scanText (setting : Setting) : Nat → Scan → List Char → Scan
  | 0, scan, _ => scan
  | _, scan, [] => scan
  | fuel + 1, scan, c :: rest =>
      let (next, after) := step setting scan c rest
      scanText setting fuel next after

/-- The content of a paragraph with this text. -/
def read (setting : Setting) (text : List Char) : List Inline :=
  Inline.ofPieces (scanText setting text.length {} text).finish

end Paragraph

end Listings.Markdown
