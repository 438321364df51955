/-
This file finds a theme in a property list.
-/

import Listings.PropertyList.Basic
import Listings.Text.Pieces
import Listings.Theme.Basic

namespace Listings

namespace FontStyle

def ofWord? : String → Option FontStyle
  | "italic" => some { italic := true }
  | "bold" => some { bold := true }
  | "underline" => some { underline := true }
  | "normal" | "regular" => some {}
  | _ => none

/-- The styles of a text with blanks between them. -/
def ofText? (text : String) : Option FontStyle :=
  (Text.words text.toList).foldlM (fun style word =>
    (ofWord? (String.ofList word)).map style.union) {}

end FontStyle

namespace Theme

/-- Reads an entry that may be absent, but may not be malformed. -/
def optional? {α : Type} (read? : String → Option α) (value : Option PropertyList) :
    Option (Option α) :=
  match value with
  | none => some none
  | some found => ((found.text?).bind read?).map some

/-- A rule with scopes and settings. -/
def rule? (value : PropertyList) : Option ThemeRule := do
  let scopes ← (← value.entry? "scope").text?
  let settings ← value.entry? "settings"
  let _ ← settings.record?
  let style ← optional? FontStyle.ofText? (settings.entry? "fontStyle")
  let foreground ← optional? Color.read? (settings.entry? "foreground")
  let _ ← optional? Color.read? (settings.entry? "background")
  pure { selectors := Selector.listOfText scopes, foreground := foreground, style := style }

/-- A color that is malformed counts as absent. -/
def color? (settings : PropertyList) (name : String) : Option Color :=
  ((settings.entry? name).bind PropertyList.text?).bind Color.read?

/-- The first settings hold everywhere; the rules follow, and malformed ones are left out. -/
def ofPropertyList? (root : PropertyList) : Option Theme := do
  let _ ← optional? some (root.entry? "name")
  let _ ← optional? some (root.entry? "author")
  match ← (← root.entry? "settings").list? with
  | [] => none
  | first :: rules => do
      let settings ← first.entry? "settings"
      let _ ← settings.record?
      pure {
        foreground := color? settings "foreground"
        background := color? settings "background"
        rules := rules.filterMap rule? }

end Theme

end Listings
