/-
This file defines an engine whose answers are prepared beforehand.
-/

import Listings.Engine.Basic

namespace Listings

/-- The answers of a prepared engine. -/
structure Preparation where
  palettes : List Palette
  languages : List String
  /-- The lines for a theme, whatever the text is. -/
  lines : List (String × List Line)
  creationFailure : Option String := none
  tokenizeFailures : List (String × String) := []

namespace Preparation

def palette (preparation : Preparation) (name : String) : Except HighlightError Palette :=
  match preparation.palettes.find? fun palette => palette.name == name with
  | some palette => .ok palette
  | none => .error (.unknownTheme name)

def tokenize (preparation : Preparation) (language theme : String) :
    Except HighlightError (List Line) :=
  match preparation.tokenizeFailures.lookup theme with
  | some message => .error (.tokenize language (.other message))
  | none => .ok ((preparation.lines.lookup theme).getD [])

def engine (preparation : Preparation) : Engine where
  languages := preparation.languages
  palette := preparation.palette
  tokenize := fun _ language theme => preparation.tokenize language theme

def factory (preparation : Preparation) : Factory :=
  .steady fun _ =>
    match preparation.creationFailure with
    | some message => pure (.error (.other message none))
    | none => pure (.ok preparation.engine)

end Preparation

end Listings
