/-
This file separates what a document sets from what it leaves to the defaults.
-/

import Listings.Settings.Load
import Mathlib.Data.List.Basic

namespace Listings.Settings

open Toml (Value Entries)

/-- What a document has for a field: it stands under its name in a table, or in its place in a list.
A moment has no fields, and neither has a part that is not there. -/
inductive HasField (entries : Entries) (part field : String) (place : Nat) :
    Option Value → Prop where
  | absent (isAbsent : entries.lookup part = none) : HasField entries part field place none
  | named {origin : Toml.Origin} {fields : Entries}
      (isTable : entries.lookup part = some (.table origin fields)) :
      HasField entries part field place (fields.lookup field)
  | listed {items : List Value} (isArray : entries.lookup part = some (.array items)) :
      HasField entries part field place items[place]?
  | repeated {items : List Value} (areTables : entries.lookup part = some (.tables items)) :
      HasField entries part field place items[place]?
  | moment {written : String} (isMoment : entries.lookup part = some (.moment written)) :
      HasField entries part field place none

/-- What the entries of a document set: themes are a list of texts, their folder is a text, and
the extensions are on or off. -/
structure Says (entries : Entries) (said : Overrides) : Prop where
  themes : HasField entries "highlight" "themes" 0
    (said.themes.map fun names => .array (names.map .text))
  themeFolder : HasField entries "highlight" "theme_dir" 1 (said.themeFolder.map .text)
  gfm : HasField entries "markdown" "gfm" 0 (said.gfm.map .boolean)

variable {entries : Entries} {part field : String} {place : Nat} {content : Option Value}

theorem hasField_iff :
    HasField entries part field place content ↔
      match entries.lookup part with
      | none | some (.moment _) => content = none
      | some (.table _ fields) => content = fields.lookup field
      | some (.array items) | some (.tables items) => content = items[place]?
      | some _ => False := by
  constructor
  · intro has
    cases has with
    | absent found => rw [found]
    | named found => rw [found]
    | listed found => rw [found]
    | repeated found => rw [found]
    | moment found => rw [found]
  · intro has
    split at has
    · rename_i found
      rw [has]
      exact .absent found
    · rename_i found
      rw [has]
      exact .moment found
    · rename_i found
      rw [has]
      exact .named found
    · rename_i found
      rw [has]
      exact .listed found
    · rename_i found
      rw [has]
      exact .repeated found
    · contradiction

/-- A document has at most one thing for a field. -/
theorem HasField.unique {other : Option Value} (has : HasField entries part field place content)
    (alsoHas : HasField entries part field place other) : other = content := by
  rw [hasField_iff] at alsoHas
  cases has with
  | absent found => rwa [found] at alsoHas
  | named found => rwa [found] at alsoHas
  | listed found => rwa [found] at alsoHas
  | repeated found => rwa [found] at alsoHas
  | moment found => rwa [found] at alsoHas

theorem Says.unique {said other : Overrides} (described : Says entries said)
    (alsoDescribed : Says entries other) : other = said := by
  have themes := described.themes.unique alsoDescribed.themes
  have themeFolder := described.themeFolder.unique alsoDescribed.themeFolder
  have gfm := described.gfm.unique alsoDescribed.gfm
  have textsInjective : Function.Injective fun names : List String =>
      Value.array (names.map .text) := by
    intro names others same
    exact List.map_injective_iff.2 (fun _ _ => Value.text.inj) (Value.array.inj same)
  have sameThemes := Option.map_injective textsInjective themes
  have sameFolder := Option.map_injective (fun _ _ => Value.text.inj) themeFolder
  have sameGfm := Option.map_injective (fun _ _ => Value.boolean.inj) gfm
  cases said
  cases other
  congr

theorem text?_eq_some_iff (value : Value) (content : String) :
    text? value = some content ↔ value = .text content := by
  cases value <;> simp [text?]

theorem boolean?_eq_some_iff (value : Value) (isOn : Bool) :
    boolean? value = some isOn ↔ value = .boolean isOn := by
  cases value <;> simp [boolean?]

theorem mapM_text?_eq_some_iff {items : List Value} {names : List String} :
    items.mapM text? = some names ↔ items = names.map .text := by
  induction items generalizing names with
  | nil => cases names <;> simp
  | cons item rest inductionHypothesis =>
      cases names with
      | nil => simp [Option.bind_eq_some_iff]
      | cons name others =>
          simp [Option.bind_eq_some_iff, text?_eq_some_iff, inductionHypothesis]

theorem texts?_eq_some_iff (value : Value) (names : List String) :
    texts? value = some names ↔ value = .array (names.map .text) := by
  cases value with
  | array items => rw [texts?, mapM_text?_eq_some_iff, Value.array.injEq]
  | _ => exact iff_of_false nofun nofun

/-- A field is read as what it is the written form of. -/
theorem field?_eq_some_iff {α : Type} {read? : Value → Option α} {written : α → Value}
    (reads : ∀ value content, read? value = some content ↔ value = written content)
    {content : Option Value} {said : Option α} :
    field? read? content = some said ↔ content = said.map written := by
  cases content with
  | none => cases said <;> simp [field?]
  | some value => cases said <;> simp [field?, reads]

/-- The fields of a section are read on their own. -/
theorem ofHighlight?_eq_some_iff {part : Value} {themes themeFolder : Option Value}
    (found : fields? ["themes", "theme_dir"] part = some [themes, themeFolder])
    {written : Settings} :
    ofHighlight? {} part = some written ↔
      ∃ saidThemes saidFolder,
        themes = Option.map (fun names => .array (names.map .text)) saidThemes ∧
        themeFolder = Option.map .text saidFolder ∧
        written = ({} : Settings).override { themes := saidThemes, themeFolder := saidFolder } := by
  rw [ofHighlight?, found]
  simp [Option.bind_eq_some_iff, field?_eq_some_iff texts?_eq_some_iff,
    field?_eq_some_iff text?_eq_some_iff, override, @eq_comm _ _ written]

theorem ofMarkdown?_eq_some_iff {settings written : Settings} {part : Value} {gfm : Option Value}
    (found : fields? ["gfm"] part = some [gfm]) :
    ofMarkdown? settings part = some written ↔
      ∃ said, gfm = Option.map .boolean said ∧ written = settings.override { gfm := said } := by
  rw [ofMarkdown?, found]
  simp [Option.bind_eq_some_iff, field?_eq_some_iff boolean?_eq_some_iff, override,
    @eq_comm _ _ written]

theorem withPart?_highlight_eq_some_iff {written : Settings} :
    withPart? entries "highlight" ofHighlight? {} = some written ↔
      ∃ saidThemes saidFolder,
        HasField entries "highlight" "themes" 0
          (Option.map (fun names => .array (names.map .text)) saidThemes) ∧
        HasField entries "highlight" "theme_dir" 1 (Option.map .text saidFolder) ∧
        written = ({} : Settings).override { themes := saidThemes, themeFolder := saidFolder } := by
  simp only [withPart?, hasField_iff]
  cases entries.lookup "highlight" with
  | none => simp [override, @eq_comm _ _ written]
  | some part =>
      -- Each form of a section gives its fields in its own way.
      have reads := @ofHighlight?_eq_some_iff part
      cases part with
      | table origin fields => simp [reads rfl, @eq_comm _ _ (Option.map _ _)]
      | array items => simp [reads rfl, @eq_comm _ _ (Option.map _ _)]
      | tables items => simp [reads rfl, @eq_comm _ _ (Option.map _ _)]
      | moment text => simp [reads rfl, @eq_comm _ _ (Option.map _ _)]
      | _ => simp [ofHighlight?, fields?]

theorem withPart?_markdown_eq_some_iff {settings written : Settings} :
    withPart? entries "markdown" ofMarkdown? settings = some written ↔
      ∃ said, HasField entries "markdown" "gfm" 0 (Option.map .boolean said) ∧
        written = settings.override { gfm := said } := by
  simp only [withPart?, hasField_iff]
  cases entries.lookup "markdown" with
  | none => simp [override, @eq_comm _ _ written]
  | some part =>
      have reads := @ofMarkdown?_eq_some_iff settings written part
      cases part with
      | table origin fields => simp [reads rfl, @eq_comm _ _ (Option.map _ _)]
      | array items => simp [reads rfl, @eq_comm _ _ (Option.map _ _)]
      | tables items => simp [reads rfl, @eq_comm _ _ (Option.map _ _)]
      | moment text => simp [reads rfl, @eq_comm _ _ (Option.map _ _)]
      | _ => simp [ofMarkdown?, fields?]

theorem ofEntries?_eq_some_iff {written : Settings} :
    ofEntries? entries = some written ↔
      ∃ said, Says entries said ∧ written = ({} : Settings).override said := by
  have parts : ofEntries? entries = (withPart? entries "highlight" ofHighlight? {}).bind
      (withPart? entries "markdown" ofMarkdown?) := rfl
  rw [parts, Option.bind_eq_some_iff]
  simp only [withPart?_highlight_eq_some_iff, withPart?_markdown_eq_some_iff]
  constructor
  · rintro ⟨_, ⟨themes, themeFolder, hasThemes, hasFolder, rfl⟩, gfm, hasGfm, rfl⟩
    refine ⟨⟨themes, themeFolder, gfm⟩, ⟨hasThemes, hasFolder, hasGfm⟩, ?_⟩
    simp [override]
  · rintro ⟨⟨themes, themeFolder, gfm⟩, described, rfl⟩
    refine ⟨_, ⟨themes, themeFolder, described.themes, described.themeFolder, rfl⟩,
      gfm, described.gfm, ?_⟩
    simp [override]

/-- A document is a TOML document, and it speaks about settings, if only nothing. -/
def IsWritten (document : String) (said : Overrides) : Prop :=
  ∃ entries, Toml.read? document = some entries ∧ Says entries said

theorem IsWritten.unique {document : String} {said other : Overrides}
    (isWritten : IsWritten document said) (alsoWritten : IsWritten document other) :
    other = said := by
  obtain ⟨entries, parsed, described⟩ := isWritten
  obtain ⟨others, alsoParsed, alsoDescribed⟩ := alsoWritten
  rw [parsed] at alsoParsed
  cases alsoParsed
  exact described.unique alsoDescribed

theorem read?_eq_some_iff {document : String} {written : Settings} :
    read? document = some written ↔
      ∃ said, IsWritten document said ∧ written = ({} : Settings).override said := by
  rw [read?, Option.bind_eq_some_iff]
  simp only [ofEntries?_eq_some_iff]
  constructor
  · rintro ⟨entries, parsed, said, described, made⟩
    exact ⟨said, ⟨entries, parsed, described⟩, made⟩
  · rintro ⟨said, ⟨entries, parsed, described⟩, made⟩
    exact ⟨entries, parsed, said, described, made⟩

theorem read?_eq_none_iff {document : String} :
    read? document = none ↔ ∀ said, ¬ IsWritten document said := by
  rw [Option.eq_none_iff_forall_ne_some]
  constructor
  · intro unread said isWritten
    exact unread _ (read?_eq_some_iff.2 ⟨said, isWritten, rfl⟩)
  · intro nothing written isRead
    obtain ⟨said, isWritten, _⟩ := read?_eq_some_iff.1 isRead
    exact nothing said isWritten

end Listings.Settings
