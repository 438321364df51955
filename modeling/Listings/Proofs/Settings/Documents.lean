/-
This file shows that settings can be written as a document which sets them and nothing else.
-/

import Listings.Proofs.Settings.Written
import Listings.Proofs.Toml.Lines

namespace Listings

/-- All names stand between quotes as they are. -/
structure Overrides.IsPlain (said : Overrides) : Prop where
  themes : ∀ names, said.themes = some names → ∀ name ∈ names, Toml.IsPlain name.toList
  themeFolder : ∀ folder, said.themeFolder = some folder → Toml.IsPlain folder.toList

namespace Settings

open Toml

variable {said : Overrides}

/-- A line for a field that is set, and none for another. -/
def lineOf {α : Type} (field : String) (write : α → List Char) (content : Option α) :
    List (List Char) :=
  content.toList.map fun content => field.toList ++ " = ".toList ++ write content

def headerOf (part : String) : List Char := '[' :: (part.toList ++ [']'])

/-- The document that says what is given. -/
def document (said : Overrides) : String :=
  String.ofList (ofLines (
    headerOf "highlight" ::
      (lineOf "themes" (fun names => '[' :: quotedItems (names.map String.toList)) said.themes ++
        lineOf "theme_dir" (fun folder => quoted folder.toList) said.themeFolder ++
          headerOf "markdown" :: lineOf "gfm" truth said.gfm)))

/-- What the lines of the document state. -/
def statementsOf (said : Overrides) : List Statement :=
  .openTable ["highlight"] ::
    (said.themes.toList.map (fun names => .assign ["themes"] (.array (names.map .text))) ++
      said.themeFolder.toList.map (fun folder => .assign ["theme_dir"] (.text folder)) ++
        .openTable ["markdown"] :: said.gfm.toList.map fun isOn => .assign ["gfm"] (.boolean isOn))

theorem isBareKey_names :
    ∀ name ∈ ["highlight", "themes", "theme_dir", "markdown", "gfm"], IsBareKey name.toList := by
  have isBare : ∀ name ∈ ["highlight", "themes", "theme_dir", "markdown", "gfm"],
      name.toList ≠ [] ∧ name.toList.all isBareKeyChar = true := by decide
  intro name member
  exact ⟨(isBare name member).1, List.all_eq_true.1 (isBare name member).2⟩

theorem isLine_lineOf {α : Type} {field : String} (isKey : IsBareKey field.toList)
    {write : α → List Char} {written : α → Value} {content : Option α}
    (isContent : ∀ found, content = some found → IsContent (write found) (written found)) :
    List.Forall₂ IsLine (lineOf field write content)
      (content.toList.map fun found => .assign [field] (written found)) := by
  cases content with
  | none => exact .nil
  | some found =>
      have isLine := isLine_assignment isKey (isContent found rfl)
      rw [String.ofList_toList] at isLine
      exact .cons isLine .nil

theorem isLine_headerOf {part : String} (isKey : IsBareKey part.toList) :
    IsLine (headerOf part) (.openTable [part]) := by
  have isLine := isLine_header isKey
  rw [String.ofList_toList] at isLine
  exact isLine

theorem read?_document (plain : said.IsPlain) :
    Toml.read? (document said) = Entries.ofStatements? (statementsOf said) := by
  refine read?_ofLines (.cons ?highlight (List.rel_append (List.rel_append ?themes ?themeFolder)
    (.cons ?markdown ?gfm))) ?unmarked
  case highlight => exact isLine_headerOf (isBareKey_names _ (by simp))
  case markdown => exact isLine_headerOf (isBareKey_names _ (by simp))
  case themes =>
    refine isLine_lineOf (isBareKey_names _ (by simp)) fun names isSaid => ?_
    have isContent := isContent_quotedItems
      (List.forall_mem_map.2 fun name member => plain.themes names isSaid name member)
    simp only [List.map_map, Function.comp_def, String.ofList_toList] at isContent
    exact isContent
  case themeFolder =>
    refine isLine_lineOf (isBareKey_names _ (by simp)) fun folder isSaid => ?_
    have isContent := isContent_quoted (plain.themeFolder folder isSaid)
    rw [String.ofList_toList] at isContent
    exact isContent
  case gfm => exact isLine_lineOf (isBareKey_names _ (by simp)) fun isOn _ => isContent_truth isOn
  case unmarked => exact nofun

theorem says_ofStatements? (said : Overrides) :
    ∃ entries, Entries.ofStatements? (statementsOf said) = some entries ∧ Says entries said := by
  -- Each of the three fields is in its table or is not.
  obtain ⟨themes, themeFolder, gfm⟩ := said
  cases themes <;> cases themeFolder <;> cases gfm <;>
    exact ⟨_, rfl, hasField_iff.2 rfl, hasField_iff.2 rfl, hasField_iff.2 rfl⟩

/-- Settings without quotes, backslashes and control characters in their names can be written. -/
theorem isWritten_document (plain : said.IsPlain) : IsWritten (document said) said := by
  obtain ⟨entries, filled, described⟩ := says_ofStatements? said
  exact ⟨entries, (read?_document plain).trans filled, described⟩

end Settings

end Listings
