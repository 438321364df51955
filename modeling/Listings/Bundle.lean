/-
This file makes engines out of the bundled themes and those of folders.
-/

import Listings.Bundle.Languages
import Listings.Engine.Grammars
import Listings.Theme.Folder

namespace Listings.Bundle

def theme (foreground background : Nat × Nat × Nat) : Theme :=
  let color := fun (parts : Nat × Nat × Nat) => Color.mk parts.1 parts.2.1 parts.2.2 255
  { foreground := some (color foreground), background := some (color background) }

def themes : ThemeSet := [
  ("InspiredGitHub", theme (0x32, 0x32, 0x32) (0xff, 0xff, 0xff)),
  ("Solarized (dark)", theme (0x83, 0x94, 0x96) (0x00, 0x2b, 0x36)),
  ("Solarized (light)", theme (0x65, 0x7b, 0x83) (0xfd, 0xf6, 0xe3)),
  ("base16-eighties.dark", theme (0xd3, 0xd0, 0xc8) (0x2d, 0x2d, 0x2d)),
  ("base16-mocha.dark", theme (0xd0, 0xc8, 0xc6) (0x3b, 0x32, 0x28)),
  ("base16-ocean.dark", theme (0xc0, 0xc5, 0xce) (0x2b, 0x30, 0x3b)),
  ("base16-ocean.light", theme (0x4f, 0x5b, 0x66) (0xef, 0xf1, 0xf5))]

/-- Plain text stands in one scope as a whole. -/
def plainText : Grammar where
  name := "Plain Text"
  extensions := ["txt"]
  scope := ⟨["text", "plain"]⟩
  contexts := []

def hasLanguage (language : String) : Bool :=
  languages.any fun name => Text.sameIgnoringAsciiCase name language

/-- The bundled grammars are data that is not kept here. So a text in any known language is cut as
plain text, and not into the spans and scopes that the grammar of its language would give it. -/
def tokenize (themes : ThemeSet) :
    (text language theme : String) → Except HighlightError (List Line) :=
  (Grammar.scoping fun language => if hasLanguage language then some plainText else none).tokenize
    themes.look

def engine (themes : ThemeSet) : Engine where
  languages := languages
  hasLanguage := hasLanguage
  palette := themes.palette
  tokenize := tokenize themes

/-- The themes of a folder take the place of those with the same names. -/
def withFolder (themes : ThemeSet) (folder : ThemeFolder) : Except EngineError ThemeSet :=
  match folder.content with
  | .error reason => .error (.themeFolder folder.path reason)
  | .ok found => .ok (found.foldl (fun themes entry => themes.remove entry.1 ++ [entry]) themes)

def create (folders : List ThemeFolder) (configuration : Configuration) :
    Except EngineError Engine := do
  let available ← folders.foldlM withFolder themes
  let selected ← available.select configuration.themes
  pure (engine selected)

/-- Reports every engine that it makes. -/
def factory (folders : List ThemeFolder) : Factory :=
  .steady fun configuration =>
    let created := create folders configuration
    match created with
    | .ok engine =>
        ⟨.ok engine, [.engineLoaded grammarCount configuration.themes.length]⟩
    | .error error => pure (.error error)

end Listings.Bundle
