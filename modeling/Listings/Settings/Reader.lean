/-
This file finds the settings in a TOML document.
-/

import Listings.Settings.Basic
import Listings.Toml.Reader

namespace Listings

open Toml (Value Entries)

namespace Settings

/-- The named fields of a section: a list gives them in order, and a moment has none. -/
def fields? (names : List String) : Value → Option (List (Option Value))
  | .table _ entries => some (names.map fun name => entries.lookup name)
  | .array items | .tables items => some (names.mapIdx fun position _ => items[position]?)
  | .moment _ => some (names.map fun _ => none)
  | _ => none

def text? : Value → Option String
  | .text content => some content
  | _ => none

def boolean? : Value → Option Bool
  | .boolean value => some value
  | _ => none

def texts? : Value → Option (List String)
  | .array items => items.mapM text?
  | _ => none

/-- Reads a field that may be absent. -/
def field? {α : Type} (read? : Value → Option α) (field : Option Value) : Option (Option α) :=
  match field with
  | none => some none
  | some value => (read? value).map some

def ofHighlight? (settings : Settings) (part : Value) : Option Settings := do
  match ← fields? ["themes", "theme_dir"] part with
  | [themes, themeFolder] => do
      let themes ← field? texts? themes
      let themeFolder ← field? text? themeFolder
      pure { settings with themes := themes.getD settings.themes, themeFolder := themeFolder }
  | _ => none

def ofMarkdown? (settings : Settings) (part : Value) : Option Settings := do
  match ← fields? ["gfm"] part with
  | [gfm] => do
      let gfm ← field? boolean? gfm
      pure { settings with gfm := gfm.getD settings.gfm }
  | _ => none

/-- Reads a section of a document that may be absent. -/
def withPart? (entries : Entries) (name : String) (read? : Settings → Value → Option Settings)
    (settings : Settings) : Option Settings :=
  match entries.lookup name with
  | none => some settings
  | some part => read? settings part

/-- Keys that mean nothing here are passed over. -/
def ofEntries? (entries : Entries) : Option Settings := do
  let settings ← withPart? entries "highlight" ofHighlight? {}
  withPart? entries "markdown" ofMarkdown? settings

/-- The settings of a document, as they are written there. -/
def read? (document : String) : Option Settings :=
  (Toml.read? document).bind ofEntries?

end Settings

end Listings
