/-
This file says where each setting comes from once settings are loaded, and why none are.
-/

import Listings.Proofs.Files.Ancestors
import Listings.Proofs.Settings.Documents
import Listings.Proofs.Settings.FromFile
import Listings.Proofs.Settings.InMemory

namespace Listings.Settings

variable {world : Surroundings Id} {path : Option String} {overrides : Option Overrides}
  {settings : Settings} {error : SettingsError}

/-- The path of the file of settings in a folder. -/
def fileIn (folder : List Char) : String := String.ofList (Path.join folder fileName.toList)

/-- Settings are looked for in the nearest folder where the path of their file leads to a file. -/
def HoldsSettings (world : Surroundings Id) (folder : List Char) : Prop :=
  (world.look (fileIn folder)).run.isFile = true

/-- The file to read: the one that is asked for, the nearest one, or none. -/
inductive Chosen (world : Surroundings Id) : Option String → Option String → Prop where
  | asked {file : String} (there : (world.look file).run.isThere = true) :
      Chosen world (some file) (some file)
  | nearest {folder : List Char}
      (nearest : Path.Nearest (HoldsSettings world) world.currentFolder.run.toList folder) :
      Chosen world none (some (fileIn folder))
  | nowhere (nowhere : ∀ folder,
        ¬ Path.Nearest (HoldsSettings world) world.currentFolder.run.toList folder) :
      Chosen world none none

theorem discover_eq (start : String) :
    (discover world start).run =
      ((Path.ancestors start.toList).find? fun folder =>
        (world.look (fileIn folder)).run.isFile).map fileIn := by
  have found := List.idRun_findM? (fun path => do
    let entry ← world.look path
    pure entry.isFile) ((Path.ancestors start.toList).map fileIn)
  rw [List.find?_map] at found
  exact found

theorem outcome_choose_some (file : String) :
    outcome (choose world (some file)) =
      if (world.look file).run.isThere then .ok (some file) else .error (.noFile file) := by
  change outcome (if (world.look file).run.isThere then _ else _) = _
  split <;> rfl

theorem outcome_choose_none :
    outcome (choose world none) = .ok (discover world world.currentFolder.run).run := rfl

theorem outcome_choose_eq_ok_iff {chosen : Option String} :
    outcome (choose world path) = .ok chosen ↔ Chosen world path chosen := by
  cases path with
  | some file =>
      rw [outcome_choose_some]
      constructor
      · intro chose
        split at chose
        · cases chose
          exact .asked (by assumption)
        · contradiction
      · intro choice
        cases choice with
        | asked there => rw [if_pos there]
  | none =>
      rw [outcome_choose_none, Except.ok.injEq, discover_eq]
      constructor
      · intro found
        cases chosen with
        | some file =>
            obtain ⟨folder, nearest, rfl⟩ := Option.map_eq_some_iff.1 found
            exact .nearest (Path.find?_ancestors.1 nearest)
        | none =>
            have nowhere := Option.map_eq_none_iff.1 found
            refine .nowhere fun folder nearest => ?_
            rw [Path.find?_ancestors.2 nearest] at nowhere
            contradiction
      · intro choice
        cases choice with
        | nearest nearest => exact congrArg (Option.map fileIn) (Path.find?_ancestors.2 nearest)
        | nowhere nowhere =>
            rw [Option.map_eq_none_iff, Option.eq_none_iff_forall_ne_some]
            exact fun folder found => nowhere folder (Path.find?_ancestors.1 found)

theorem outcome_choose_eq_error_iff :
    outcome (choose world path) = .error error ↔
      ∃ file, path = some file ∧ (world.look file).run.isThere = false ∧ error = .noFile file := by
  cases path with
  | none => exact iff_of_false nofun nofun
  | some file =>
      rw [outcome_choose_some]
      cases there : (world.look file).run.isThere <;> simp [there, @eq_comm _ error]

/-- The settings before any override: those of the chosen file, or the defaults without one. -/
inductive IsLoaded (world : Surroundings Id) (path : Option String) : Settings → Prop where
  | fromFile {file : String} {said : Overrides} {settings : Settings}
      (chosen : Chosen world path (some file)) (isRead : IsRead world file said)
      (completes : Completes world file said settings) (sensible : settings.Sensible) :
      IsLoaded world path settings
  | defaults (chosen : Chosen world path none) : IsLoaded world path {}

/-- Why there are no settings. Each reason stands only where those before it do not. -/
inductive Fails (world : Surroundings Id) (path : Option String) (overrides : Option Overrides) :
    SettingsError → Prop where
  | noFile {file : String} (asked : path = some file)
      (missing : (world.look file).run.isThere = false) : Fails world path overrides (.noFile file)
  | inFile {file : String} {error : SettingsError} (chosen : Chosen world path (some file))
      (fails : FileFails world file error) : Fails world path overrides error
  | overridden {base : Settings} {given : Overrides} {fault : SettingsFault}
      (loaded : IsLoaded world path base) (isGiven : overrides = some given)
      (faulty : (base.override given).fault? = some fault) :
      Fails world path overrides (.faulty fault)

theorem outcome_load_none :
    outcome (load world path none) = outcome (choose world path) >>= fun chosen =>
      match chosen with
      | some file => outcome (ofFile world file)
      | none => .ok {} := by
  rw [load, outcome_bind]
  refine congrArg _ (funext fun chosen => ?_)
  cases chosen with
  | none => rfl
  | some file =>
      change outcome (ofFile world file >>= fun settings => pure settings) = _
      rw [bind_pure]

theorem outcome_load_some (given : Overrides) :
    outcome (load world path (some given)) = outcome (load world path none) >>= fun loaded =>
      outcome (checked (loaded.override given)) := by
  rw [outcome_load_none, load, outcome_bind]
  cases outcome (choose world path) with
  | error error => rfl
  | ok chosen =>
      cases chosen with
      | none => rfl
      | some file => exact outcome_bind _ _

theorem outcome_load_none_eq_ok_iff :
    outcome (load world path none) = .ok settings ↔ IsLoaded world path settings := by
  rw [outcome_load_none, bind_eq_ok_iff]
  simp only [outcome_choose_eq_ok_iff]
  constructor
  · rintro ⟨chosen, choice, loaded⟩
    cases chosen with
    | none =>
        cases loaded
        exact .defaults choice
    | some file =>
        obtain ⟨said, isRead, completes, sensible⟩ := outcome_ofFile_eq_ok_iff.1 loaded
        exact .fromFile choice isRead completes sensible
  · intro loaded
    cases loaded with
    | fromFile choice isRead completes sensible =>
        exact ⟨_, choice, outcome_ofFile_eq_ok_iff.2 ⟨_, isRead, completes, sensible⟩⟩
    | defaults choice => exact ⟨none, choice, rfl⟩

theorem IsLoaded.sensible (loaded : IsLoaded world path settings) : settings.Sensible := by
  cases loaded with
  | fromFile _ _ _ sensible => exact sensible
  | defaults _ => exact sensible_default

theorem outcome_load_eq_ok_iff :
    outcome (load world path overrides) = .ok settings ↔
      settings.Sensible ∧ ∃ base, IsLoaded world path base ∧
        settings = base.override (overrides.getD {}) := by
  cases overrides with
  | none =>
      rw [outcome_load_none_eq_ok_iff]
      constructor
      · intro loaded
        exact ⟨loaded.sensible, settings, loaded, rfl⟩
      · rintro ⟨_, base, loaded, rfl⟩
        exact loaded
  | some given =>
      simp only [outcome_load_some, bind_eq_ok_iff, outcome_load_none_eq_ok_iff,
        outcome_checked_eq_ok_iff]
      constructor
      · rintro ⟨base, loaded, sensible, rfl⟩
        exact ⟨sensible, base, loaded, rfl⟩
      · rintro ⟨sensible, base, loaded, rfl⟩
        exact ⟨base, loaded, sensible, rfl⟩

theorem outcome_load_none_eq_error_iff :
    outcome (load world path none) = .error error ↔ Fails world path none error := by
  rw [outcome_load_none, bind_eq_error_iff, outcome_choose_eq_error_iff]
  simp only [outcome_choose_eq_ok_iff]
  constructor
  · rintro (⟨file, asked, missing, rfl⟩ | ⟨chosen, choice, fails⟩)
    · exact .noFile asked missing
    · cases chosen with
      | none => contradiction
      | some file => exact .inFile choice (outcome_ofFile_eq_error_iff.1 fails)
  · intro fails
    cases fails with
    | noFile asked missing => exact .inl ⟨_, asked, missing, rfl⟩
    | inFile choice fails => exact .inr ⟨_, choice, outcome_ofFile_eq_error_iff.2 fails⟩
    | overridden _ isGiven _ => contradiction

theorem fails_some_iff {given : Overrides} :
    Fails world path (some given) error ↔
      Fails world path none error ∨ ∃ base, IsLoaded world path base ∧
        ∃ fault, (base.override given).fault? = some fault ∧ error = .faulty fault := by
  constructor
  · intro fails
    cases fails with
    | noFile asked missing => exact .inl (.noFile asked missing)
    | inFile choice fails => exact .inl (.inFile choice fails)
    | overridden loaded isGiven faulty =>
        cases isGiven
        exact .inr ⟨_, loaded, _, faulty, rfl⟩
  · rintro (fails | ⟨base, loaded, fault, faulty, rfl⟩)
    · cases fails with
      | noFile asked missing => exact .noFile asked missing
      | inFile choice fails => exact .inFile choice fails
      | overridden _ isGiven _ => contradiction
    · exact .overridden loaded rfl faulty

theorem outcome_load_eq_error_iff :
    outcome (load world path overrides) = .error error ↔ Fails world path overrides error := by
  cases overrides with
  | none => exact outcome_load_none_eq_error_iff
  | some given =>
      simp only [outcome_load_some, bind_eq_error_iff, outcome_load_none_eq_error_iff,
        outcome_load_none_eq_ok_iff, outcome_checked_eq_error_iff, fails_some_iff]

/-- Each setting is the one that overrides give, or else the one that the chosen file sets, with
variables and its folder put in, or else the default. What is loaded has no fault, and where nothing
is loaded, the first reason against it is the error. -/
theorem load_takes_each_setting_from_one_source (world : Surroundings Id) (path : Option String)
    (overrides : Option Overrides) :
    (∀ settings, outcome (load world path overrides) = .ok settings ↔
      settings.Sensible ∧ ∃ base, IsLoaded world path base ∧
        settings.themes = (overrides.bind Overrides.themes).getD base.themes ∧
        settings.themeFolder = (overrides.bind Overrides.themeFolder).or base.themeFolder ∧
        settings.gfm = (overrides.bind Overrides.gfm).getD base.gfm ∧
        settings.path = base.path) ∧
    (∀ settings, outcome (load world path overrides) = .ok settings → settings.fault? = none) ∧
    (∀ base, IsLoaded world path base ↔ outcome (load world path none) = .ok base) ∧
    (∀ error, outcome (load world path overrides) = .error error ↔
      Fails world path overrides error) ∧
    -- A memory is such a world, and it stays as it is.
    (∀ memory : FileTree.Memory, (load FileTree.surroundings path overrides).run.run memory =
      (outcome (load memory.still path overrides), memory)) ∧
    -- A document sets one thing, and all settings without quotes, backslashes and control
    -- characters in their names are set by some document.
    (∀ document said other, IsWritten document said → IsWritten document other → other = said) ∧
    (∀ said : Overrides, said.IsPlain → IsWritten (document said) said) ∧
    -- Variables are put in for references, unless the text opens a brace after some dollar sign and
    -- copies another one that could begin something.
    ∀ (text : String) (template : Template), Template.Means text.toList template →
      ¬ ['$', '\x7b'] <:+: text.toList ∨ template.KeepsDollars → ∀ content,
        (Expands world text content ↔
          ∃ contents, List.Forall₂ (TemplatePart.Gives world) template contents ∧
            content = String.ofList contents.flatten) := by
  refine ⟨?_, ?_, ?_, ?_, ?_, ?_, ?_, ?_⟩
  · intro settings
    rw [outcome_load_eq_ok_iff]
    refine and_congr_right fun _ => exists_congr fun base => and_congr_right fun _ => ?_
    have given : settings = base.override (overrides.getD {}) ↔
        settings.themes = (overrides.getD {}).themes.getD base.themes ∧
        settings.themeFolder = (overrides.getD {}).themeFolder.or base.themeFolder ∧
        settings.gfm = (overrides.getD {}).gfm.getD base.gfm ∧ settings.path = base.path := by
      cases settings
      exact Settings.mk.injEq _ _ _ _ _ _ _ _ ▸ Iff.rfl
    rw [given]
    cases overrides <;> rfl
  · intro settings loaded
    exact fault?_eq_none_iff.2 (outcome_load_eq_ok_iff.1 loaded).1
  · intro base
    exact outcome_load_none_eq_ok_iff.symm
  · intro error
    exact outcome_load_eq_error_iff
  · intro memory
    exact run_load memory path overrides
  · intro document said other isWritten alsoWritten
    exact isWritten.unique alsoWritten
  · intro said plain
    exact isWritten_document plain
  · intro text template means kept content
    exact expands_iff_of_means means kept

def siteFile : String := "/site/rw-highlight.toml"

def siteDocument : String :=
  "[highlight]\nthemes = [\"$\x7bTHEME:-light\x7d\",\"dark\",]\ntheme_dir = \"themes\"\n" ++
    "[markdown]\n"

/-- What the document of the site sets. -/
def siteOverrides : Overrides :=
  { themes := some ["$\x7bTHEME:-light\x7d", "dark"], themeFolder := some "themes" }

/-- A world whose one file holds settings, above the current folder. -/
def site : Surroundings Id where
  getVariable _ := none
  currentFolder := "/site/docs"
  look path := if path = siteFile then .file siteDocument.toUTF8 else .missing
  standardInput := .empty
  write _ _ := .ok ()

/-- The themes and their folder are those of the file, overrides turn the extensions off, and the
default of a reference is put in. -/
theorem load_takes_each_setting_from_one_source_of_file :
    IsRead site siteFile siteOverrides ∧
      outcome (load site none (some { gfm := some false })) = .ok
        { themes := ["light", "dark"], themeFolder := some "/site/themes", gfm := false,
          path := some siteFile } := by
  obtain ⟨loads, _, _, _, _, _, writes, expands⟩ :=
    load_takes_each_setting_from_one_source site none (some { gfm := some false })
  have isRead : IsRead site siteFile siteOverrides := by
    have isText : (site.look siteFile).run.text = .ok siteDocument := textOf_toUTF8 siteDocument
    have isDocument : siteDocument = document siteOverrides := rfl
    have plain : siteOverrides.IsPlain := by
      constructor
      · rintro names ⟨⟩
        simp [Toml.IsPlain, Toml.isControl]
      · rintro folder ⟨⟩
        simp [Toml.IsPlain, Toml.isControl]
    have isWritten := writes siteOverrides plain
    rw [← isDocument] at isWritten
    exact ⟨_, isText, isWritten⟩
  have first : Expands site "$\x7bTHEME:-light\x7d" "light" := by
    have isReference : (TemplatePart.reference "THEME" (some "light")).IsReference :=
      .optional ⟨by decide, by simp⟩ (by decide)
    have means : Template.Means "$\x7bTHEME:-light\x7d".toList
        [.reference "THEME" (some "light")] :=
      .reference isReference .nil
    have keeps : Template.KeepsDollars [.reference "THEME" (some "light")] := by
      simp [Template.keepsDollars_cons, Template.keepsDollars_nil]
    have gives : TemplatePart.Gives site (.reference "THEME" (some "light")) "light".toList :=
      .default rfl
    exact (expands _ _ means (Or.inr keeps) _).2 ⟨["light".toList], .cons gives .nil, rfl⟩
  have second : Expands site "dark" "dark" := .same (by decide)
  have folder : Expands site "themes" "themes" := .same (by decide)
  have completes : Completes site siteFile siteOverrides
      { themes := ["light", "dark"], themeFolder := some "/site/themes", path := some siteFile } :=
    ⟨.cons first (.cons second .nil), ⟨"themes", folder, by decide⟩, rfl, rfl⟩
  have above : HoldsSettings site "/site".toList := rfl
  have notHere : ¬ HoldsSettings site "/site/docs".toList := Bool.false_ne_true
  have isParent : Path.parent? "/site/docs".toList = some "/site".toList := rfl
  have chosen : Chosen site none (some siteFile) :=
    .nearest (.above notHere isParent (.here above))
  refine ⟨isRead, (loads _).2 ⟨?_, _, .fromFile chosen isRead completes ?_, rfl, rfl, rfl, rfl⟩⟩
  all_goals exact fault?_eq_none_iff.1 rfl

end Listings.Settings
