/-
This file finds the file of settings and completes what it says.
-/

import Listings.Files.Path
import Listings.Settings.Reader
import Listings.Settings.Template

namespace Listings

/-- Settings that take the place of those in the file. -/
structure Overrides where
  themes : Option (List String) := none
  themeFolder : Option String := none
  gfm : Option Bool := none

namespace Settings

/-- The name of the file that settings are looked for in. -/
def fileName : String := "rw-highlight.toml"

def override (overrides : Overrides) (settings : Settings) : Settings :=
  { settings with
    themes := overrides.themes.getD settings.themes
    themeFolder := overrides.themeFolder.or settings.themeFolder
    gfm := overrides.gfm.getD settings.gfm }

/-- A relative folder is one below the folder of the file. -/
def settle (path : String) (settings : Settings) : Settings :=
  let folder := (Path.parent? path.toList).getD ['.']
  { settings with
    themeFolder := settings.themeFolder.map fun themes =>
      String.ofList (Path.join folder themes.toList)
    path := some path }

variable {m : Type → Type} [Monad m]

abbrev Loading (m : Type → Type) := ExceptT SettingsError m

def checked (settings : Settings) : Loading m Settings :=
  match settings.fault? with
  | some fault => throw (.faulty fault)
  | none => pure settings

/-- The nearest file of settings in a folder or above it. -/
def discover (world : Surroundings m) (start : String) : m (Option String) :=
  let candidates := (Path.ancestors start.toList).map fun folder =>
    String.ofList (Path.join folder fileName.toList)
  candidates.findM? fun path => do
    let entry ← world.look path
    pure entry.isFile

def expand (world : Surroundings m) (field text : String) : Loading m String :=
  ExceptT.mk do
    let outcome ← (Template.expand world.getVariable text).run
    pure (outcome.mapError fun name => .unset field name)

/-- Puts the values of variables into the themes, then into their folder. -/
def expandAll (world : Surroundings m) (settings : Settings) : Loading m Settings := do
  let themes ← settings.themes.mapM (expand world "highlight.themes")
  let themeFolder ← settings.themeFolder.mapM (expand world "highlight.theme_dir")
  pure { settings with themes := themes, themeFolder := themeFolder }

def ofFile (world : Surroundings m) (path : String) : Loading m Settings := do
  let entry ← world.look path
  match entry.text with
  | .error error => throw (.unreadable error)
  | .ok document =>
      match read? document with
      | none => throw .malformed
      | some settings => do
          let expanded ← expandAll world settings
          checked (expanded.settle path)

/-- The file to read: the one that is asked for, which must be there, or the nearest. -/
def choose (world : Surroundings m) (path : Option String) : Loading m (Option String) := do
  match path with
  | none => do
      let folder ← world.currentFolder
      ExceptT.lift (discover world folder)
  | some path => do
      let entry ← world.look path
      if entry.isThere then pure (some path) else throw (.noFile path)

/-- Overrides come last, and what they leave is checked again. -/
def load (world : Surroundings m) (path : Option String) (overrides : Option Overrides) :
    Loading m Settings := do
  let chosen ← choose world path
  let settings ← match chosen with
    | some file => ofFile world file
    | none => pure {}
  match overrides with
  | some overrides => checked (settings.override overrides)
  | none => pure settings

end Settings

end Listings
