/-
This file defines a small engine that knows words, single spaces and three keywords.
-/

import Listings.Engine.Basic
import Listings.Text.Pieces

namespace Listings.Keyword

def keywords : List String := ["fn", "let", "pub"]

def keywordColor : String := "#d73a49"

def palettes : List Palette := [
  ⟨"light", "#24292e", "#ffffff"⟩,
  ⟨"dark", "#e1e4e8", "#24292e"⟩]

def languages : List String := ["rust", "toml"]

def fragment (language content : String) (color : Option String) (style : FontStyle)
    (scope : Option String) : Fragment where
  content := content
  color := color
  style := style
  parts := [⟨content, ("source." ++ language) :: scope.toList⟩]

def space (language : String) : Fragment := fragment language " " none {} none

/-- Nothing comes of an empty word. -/
def word (language : String) (text : List Char) : Line :=
  let content := String.ofList text
  if text.isEmpty then []
  else if keywords.contains content then
    [fragment language content (some keywordColor) { bold := true } (some "keyword.other")]
  else [fragment language content none {} none]

/-- A space stands between any two words, of which some may be empty. -/
def spaced (language : String) : List (List Char) → Line
  | [] => []
  | first :: rest =>
      word language first ++ rest.flatMap fun text => space language :: word language text

def tokenizeLine (language : String) (text : List Char) : Line :=
  spaced language (Text.pieces (· == ' ') text)

def palette (name : String) : Except HighlightError Palette :=
  match palettes.find? fun palette => palette.name == name with
  | some palette => .ok palette
  | none => .error (.unknownTheme name)

def tokenize (text language theme : String) : Except HighlightError (List Line) := do
  let _ ← palette theme
  pure ((Text.lines text.toList).map (tokenizeLine language))

def engine : Engine where
  languages := languages
  palette := palette
  tokenize := tokenize

/-- The configuration may name only themes of the engine. -/
def create (configuration : Configuration) : Except EngineError Engine :=
  match configuration.themes.find? fun name => !palettes.any (·.name == name) with
  | some name => .error (.unknownTheme name none)
  | none => .ok engine

def factory : Factory := .steady fun configuration => pure (create configuration)

end Listings.Keyword
