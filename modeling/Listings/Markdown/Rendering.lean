/-
This file renders documents with their blocks of code highlighted.
-/

import Listings.Highlighter
import Listings.Markdown.Fence
import Listings.Markdown.Writer
import Listings.Markup.Html

namespace Listings.Markdown

/-- A block of code whose end was not read yet. -/
structure OpenCode where
  info : FenceInfo
  content : List Char := []

/-- A document in HTML. -/
structure Rendering where
  html : String
  /-- How many blocks of code it holds. -/
  codeBlocks : Nat

namespace OpenCode

/-- Indented code has no language and no directive. -/
def start (info : Option String) : OpenCode :=
  ⟨(info.map fun text => FenceInfo.split text.toList).getD {}, []⟩

def add (text : String) (code : OpenCode) : OpenCode :=
  { code with content := code.content ++ text.toList }

/-- The newline at the end of the last line is no part of the code. -/
def source (code : OpenCode) : String := String.ofList (Text.dropFinalNewline code.content)

def language (code : OpenCode) : Option String := code.info.language.map String.ofList

def directive (code : OpenCode) : String := String.ofList code.info.directive

/-- Highlights the block and reports it. -/
def highlight (factory : Factory) (code : OpenCode) : Highlighting Event := do
  let roots ← Highlighter.highlightAs factory code.source code.language code.directive
  Highlighting.report (.blockHighlighted (code.language.getD "") roots.length)
  pure (.markup (Markup.render roots))

end OpenCode

namespace Rendering

/-- Puts one piece of markup in place of every block of code, and counts the blocks. -/
def highlightCode (factory : Factory) :
    Option OpenCode → List Event → Highlighting (List Event × Nat)
  | _, [] => pure ([], 0)
  | code, event :: rest =>
      match event, code with
      | .enter (.code info), _ => highlightCode factory (some (.start info)) rest
      | .leave (.code _), some code => do
          let block ← code.highlight factory
          let (events, count) ← highlightCode factory none rest
          pure (block :: events, count + 1)
      | .leave (.code _), none => highlightCode factory none rest
      | .text content, some code => highlightCode factory (some (code.add content)) rest
      | event, code => do
          let (events, count) ← highlightCode factory code rest
          pure (event :: events, count)

/-- Renders a document, with the extensions of GitHub if asked for. -/
def render (factory : Factory) (extended : Bool) (document : String) : Highlighting Rendering := do
  let (events, count) ← highlightCode factory none (Event.ofDocument extended document)
  pure ⟨Event.toHtml events, count⟩

/-- Renders a document; errors say that it was for a block of code. -/
def run (factory : Factory) (extended : Bool) (document : String) (cache : Cache) :
    Reported (Except RenderError Rendering × Cache) := do
  let (outcome, cache) ← (render factory extended document).run cache
  pure (outcome.mapError RenderError.mk, cache)

end Rendering

end Listings.Markdown
