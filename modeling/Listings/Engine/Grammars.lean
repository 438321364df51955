/-
This file makes engines out of grammars and themes.
-/

import Listings.Engine.Basic
import Listings.Grammar.Nesting
import Listings.Grammar.Styling
import Listings.Text.Case

namespace Listings

open Text

/-- Themes by name. -/
abbrev ThemeSet := List (String × Theme)

namespace ThemeSet

def remove (name : String) (themes : ThemeSet) : ThemeSet :=
  themes.filter fun entry => entry.1 != name

def names (themes : ThemeSet) : List String :=
  (themes.map Prod.fst).mergeSort fun a b => a ≤ b

/-- Takes themes out one by one, so that none is there a second time. -/
def select (themes : ThemeSet) : List String → Except EngineError ThemeSet
  | [] => .ok []
  | name :: rest =>
      match themes.lookup name with
      | none => .error (.unknownTheme name (some themes.names))
      | some theme => do
          let others ← select (themes.remove name) rest
          pure ((name, theme) :: others)

def find (themes : ThemeSet) (name : String) : Except HighlightError Theme :=
  match themes.lookup name with
  | some theme => .ok theme
  | none => .error (.unknownTheme name)

def look (themes : ThemeSet) (name : String) : Except HighlightError (ScopeStack → Look) :=
  (themes.find name).map Theme.look

def palette (themes : ThemeSet) (name : String) : Except HighlightError Palette := do
  let theme ← themes.find name
  pure (theme.palette name)

end ThemeSet

namespace Grammar

/-- The names that a grammar goes by. -/
def languages (grammar : Grammar) : List String :=
  String.ofList (lower grammar.name.toList) :: grammar.extensions

/-- The last grammar that a test accepts. -/
def findLast? (accepts : Grammar → Bool) (grammars : List Grammar) : Option Grammar :=
  grammars.reverse.find? accepts

/-- Extensions come before names, and later grammars before earlier ones. -/
def find? (grammars : List Grammar) (language : String) : Option Grammar :=
  (findLast? (fun grammar => grammar.extensions.any fun name => sameIgnoringAsciiCase name language)
    grammars).or
    (findLast? (fun grammar => sameIgnoringAsciiCase grammar.name language) grammars)

/-- The changes in a line, placed by bytes, and the contexts after it. -/
def readLine (state : Grammar × Nesting) (line : List Char) :
    Except TokenizeError (List (Placed ScopeChange) × (Grammar × Nesting)) := do
  let (changes, nesting) ← state.2.parseLine state.1 line
  let placed := changes.map fun placed =>
    ⟨byteLength (line.take placed.position), placed.change⟩
  pure (placed, (state.1, nesting))

/-- Contexts and scopes that one line opens go on in the next. -/
def scoping (find? : (language : String) → Option Grammar) :
    Scoping (Grammar × Nesting) ScopeStack ScopeChange where
  start? := fun language => (find? language).map fun grammar => (grammar, .start grammar)
  readLine := readLine
  outermost := []
  apply := fun stack change => .ok (change.apply stack)
  names := fun stack => stack.map Scope.name

end Grammar

namespace Grammars

def tokenize (grammars : List Grammar) (themes : ThemeSet) :
    (text language theme : String) → Except HighlightError (List Line) :=
  (Grammar.scoping (Grammar.find? grammars)).tokenize themes.look

def engine (grammars : List Grammar) (themes : ThemeSet) : Engine where
  languages := grammars.flatMap Grammar.languages
  hasLanguage := fun language => (Grammar.find? grammars language).isSome
  palette := themes.palette
  tokenize := tokenize grammars themes

/-- An engine with those themes of a set that the configuration names. -/
def create (grammars : List Grammar) (themes : ThemeSet) (configuration : Configuration) :
    Except EngineError Engine :=
  (themes.select configuration.themes).map (engine grammars)

def factory (grammars : List Grammar) (themes : ThemeSet) : Factory :=
  .steady fun configuration => pure (create grammars themes configuration)

end Grammars

end Listings
