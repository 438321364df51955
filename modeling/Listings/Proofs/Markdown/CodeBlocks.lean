/-
This file divides events into blocks of code and others, and shows that rendering puts one event
in the place of every block.
-/

import Listings.Markdown.Rendering

namespace Listings.Markdown

open Markup (Element)

/-- A block of code begins or ends with the event. -/
def Event.isCodeBound : Event → Bool
  | .enter (.code _) | .leave (.code _) => true
  | _ => false

/-- A block of code as its events tell it. -/
structure CodeBlock where
  info : Option String
  texts : List String
  /-- What its last event says is of no account. -/
  closing : Option String

namespace CodeBlock

def events (block : CodeBlock) : List Event :=
  .enter (.code block.info) :: block.texts.map .text ++ [.leave (.code block.closing)]

def text (block : CodeBlock) : List Char := block.texts.flatMap String.toList

/-- One newline at the end of the text is no part of the code. -/
def source (block : CodeBlock) : String := String.ofList (Text.dropFinalNewline block.text)

/-- Indented code says nothing about itself. -/
def saying (block : CodeBlock) : FenceInfo :=
  match block.info with
  | some info => FenceInfo.split info.toList
  | none => { language := none, directive := [] }

def language (block : CodeBlock) : Option String := block.saying.language.map String.ofList

def directive (block : CodeBlock) : String := String.ofList block.saying.directive

def highlight (factory : Factory) (block : CodeBlock) : Highlighting (List Element) :=
  Highlighter.highlightAs factory block.source block.language block.directive

/-- What is reported of a block with so many roots. -/
def notice (block : CodeBlock) (roots : List Element) : Notice :=
  .blockHighlighted (block.language.getD "") roots.length

/-- The event that takes the place of the block. -/
def shown (factory : Factory) (block : CodeBlock) : Highlighting Event := do
  let roots ← block.highlight factory
  Highlighting.report (block.notice roots)
  pure (.markup (Markup.render roots))

end CodeBlock

/-- A part of a document, as far as code is concerned. -/
inductive Part where
  | code (block : CodeBlock)
  | other (event : Event) (isOther : event.isCodeBound = false)

namespace Part

def events : Part → List Event
  | code block => block.events
  | other event _ => [event]

def isCode : Part → Bool
  | code _ => true
  | other .. => false

/-- Only blocks of code are replaced. -/
def shown (factory : Factory) : Part → Highlighting Event
  | code block => block.shown factory
  | other event _ => pure event

end Part

namespace Rendering

variable (factory : Factory)

theorem highlightCode_other {event : Event} (isOther : event.isCodeBound = false)
    (rest : List Event) :
    highlightCode factory none (event :: rest) = (do
      let (events, count) ← highlightCode factory none rest
      pure (event :: events, count)) := by
  cases event with
  | enter region => cases region <;> first | contradiction | rfl
  | leave region => cases region <;> first | contradiction | rfl
  | _ => rfl

theorem highlightCode_texts (code : OpenCode) (texts : List String) (rest : List Event) :
    highlightCode factory (some code) (texts.map .text ++ rest) =
      highlightCode factory
        (some { code with content := code.content ++ texts.flatMap String.toList }) rest := by
  induction texts generalizing code with
  | nil => rw [List.flatMap_nil, List.append_nil]; rfl
  | cons text more inductionHypothesis =>
      rw [List.flatMap_cons, ← List.append_assoc]
      exact inductionHypothesis (code.add text)

/-- Whatever was read before, a block is highlighted as its own events tell it. -/
theorem highlightCode_code (block : CodeBlock) (rest : List Event) :
    highlightCode factory none (block.events ++ rest) = (do
      let event ← block.shown factory
      let (events, count) ← highlightCode factory none rest
      pure (event :: events, count + 1)) := by
  have opened : highlightCode factory none (block.events ++ rest) =
      highlightCode factory (some (.start block.info))
        (block.texts.map .text ++ .leave (.code block.closing) :: rest) := by
    rw [CodeBlock.events, List.append_assoc]
    rfl
  rw [opened, highlightCode_texts]
  obtain ⟨info, texts, closing⟩ := block
  cases info <;> rfl

/-- Rendering goes from part to part and counts the blocks of code. -/
theorem highlightCode_events (parts : List Part) :
    highlightCode factory none (parts.flatMap Part.events) = (do
      let output ← parts.mapM (Part.shown factory)
      pure (output, parts.countP Part.isCode)) := by
  induction parts with
  | nil => rfl
  | cons part rest inductionHypothesis =>
      rw [List.flatMap_cons, List.mapM_cons, List.countP_cons]
      cases part with
      | code block =>
          rw [Part.events, highlightCode_code, inductionHypothesis]
          simp only [bind_assoc, pure_bind]
          rfl
      | other event isOther =>
          rw [Part.events, List.singleton_append, highlightCode_other factory isOther,
            inductionHypothesis]
          simp only [bind_assoc, pure_bind]
          rfl

end Rendering

end Listings.Markdown
