/-
This file highlights blocks of code with the engine of a cache.
-/

import Listings.Cache
import Listings.Directive.Reader
import Listings.Layout

namespace Listings

open Markup (Element)

/-- A computation that uses and may refill a cache, reports, and may fail. -/
abbrev Highlighting (α : Type) := ExceptT HighlightError (StateT Cache Reported) α

namespace Highlighting

variable {α : Type}

def run (action : Highlighting α) (cache : Cache) : Reported (Except HighlightError α × Cache) :=
  StateT.run (ExceptT.run action) cache

def report (notice : Notice) : Highlighting Unit :=
  ExceptT.lift (StateT.lift (Reported.report notice))

def built (factory : Factory) : Highlighting BuiltEngine :=
  ExceptT.mk fun cache => do
    let (outcome, cache) ← cache.acquire factory
    pure (outcome.mapError .engine, cache)

def lift (outcome : Except HighlightError α) : Highlighting α :=
  ExceptT.mk (pure outcome)

end Highlighting

/-- Highlighting that runs edits. What they have changed stays so even if it fails. -/
abbrev Editing (σ α : Type) := ExceptT HighlightError (StateT (σ × Cache) Reported) α

namespace Editing

variable {σ α : Type}

def run (action : Editing σ α) (state : σ) (cache : Cache) :
    Reported (Except HighlightError α × σ × Cache) :=
  StateT.run (ExceptT.run action) (state, cache)

def ofHighlighting (action : Highlighting α) : Editing σ α :=
  ExceptT.mk fun (state, cache) => do
    let (outcome, cache) ← action.run cache
    pure (outcome, state, cache)

def ofEdits (action : StateM σ α) : Editing σ α :=
  ExceptT.mk fun (state, cache) =>
    let (value, state) := action state
    pure (.ok value, state, cache)

/-- Without anything to remember, there is only the highlighting. -/
def toHighlighting (action : Editing Unit α) : Highlighting α :=
  ExceptT.mk fun cache => do
    let (outcome, (), cache) ← action.run () cache
    pure (outcome, cache)

end Editing

/-- A text that waits for its layout. -/
inductive Tokenized where
  /-- The text stays whole, once for every palette. -/
  | whole (palettes : List Palette)
  | blocks (blocks : List TokenBlock)

namespace Highlighter

open Highlighting

/-- The tag of a block whose language is not known. -/
def unknownLanguage : String := "unknown"

/-- The language to ask the engine for, if there is one. -/
def wantedLanguage? (language : Option String) : Option String :=
  language.filter fun name => !name.isEmpty && name != unknownLanguage

/-- One block of tokens for every theme, or the error of the first theme that fails. -/
def tokenBlocks (built : BuiltEngine) (text language : String) (palettes : List Palette) :
    Except HighlightError (List TokenBlock) :=
  (built.configuration.themes.zip palettes).mapM fun entry => do
    let lines ← built.engine.tokenize text language entry.1
    pure ⟨entry.2, lines⟩

/-- Looks the themes up and cuts the text, unless its language is not known. -/
def tokenize (factory : Factory) (text : String) (language : Option String) :
    Highlighting Tokenized := do
  let built ← Highlighting.built factory
  let palettes ← Highlighting.lift built.palettes
  match wantedLanguage? language with
  | none => pure (.whole palettes)
  | some name =>
      if built.engine.hasLanguage name then
        let blocks ← Highlighting.lift (tokenBlocks built text name palettes)
        pure (.blocks blocks)
      else
        report (.unknownLanguage name)
        pure (.whole palettes)

/-- One root for every theme. -/
def layOut {σ : Type} (text : String) (directive : Directive) (makers : List (EditMaker σ)) :
    Tokenized → StateM σ (List Element)
  | .whole palettes => pure (Layout.plain text palettes directive)
  | .blocks blocks => Layout.format directive makers blocks

/-- Highlights a text; the edits run only on text that was cut into lines. -/
def highlight {σ : Type} (factory : Factory) (text : String) (language : Option String)
    (directive : Directive) (makers : List (EditMaker σ)) : Editing σ (List Element) := do
  let tokenized ← Editing.ofHighlighting (tokenize factory text language)
  Editing.ofEdits (layOut text directive makers tokenized)

/-- Reads a directive and highlights a text as it says. -/
def highlightAs (factory : Factory) (text : String) (language : Option String)
    (directive : String) : Highlighting (List Element) := do
  let directive ← ExceptT.lift (StateT.lift (Directive.read directive))
  (highlight factory text language directive []).toHighlighting

def palettes (factory : Factory) : Highlighting (List Palette) := do
  let built ← Highlighting.built factory
  Highlighting.lift built.palettes

/-- Keeps the first of equal neighbours. -/
def dedup : List String → List String
  | [] => []
  | name :: rest =>
      match dedup rest with
      | [] => [name]
      | next :: more => if name = next then next :: more else name :: next :: more

/-- The languages of the engine, each once, in ascending order. -/
def languages (factory : Factory) : Highlighting (List String) := do
  let built ← Highlighting.built factory
  pure (dedup (built.engine.languages.mergeSort fun a b => a ≤ b))

end Highlighter

end Listings
