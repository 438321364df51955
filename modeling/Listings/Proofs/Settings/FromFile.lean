/-
This file says which settings a file gives, and why it gives none.
-/

import Listings.Proofs.Settings.Expansion
import Listings.Proofs.Settings.Faults
import Listings.Proofs.Settings.Written

namespace Listings.Settings

variable {α β : Type} {world : Surroundings Id} {file : String} {said : Overrides}
  {settings : Settings} {error : SettingsError}

/-- What comes of loading in a world that stays as it is. -/
def outcome (action : Loading Id α) : Except SettingsError α := Id.run action.run

@[simp] theorem outcome_pure (value : α) : outcome (pure value) = .ok value := rfl

@[simp] theorem outcome_throw (error : SettingsError) :
    outcome (throw error : Loading Id α) = .error error := rfl

theorem outcome_bind (first : Loading Id α) (next : α → Loading Id β) :
    outcome (first >>= next) = outcome first >>= fun value => outcome (next value) :=
  run_bind first next

theorem outcome_mapM (step : α → Loading Id β) (items : List α) :
    outcome (items.mapM step) = items.mapM fun item => outcome (step item) := by
  induction items with
  | nil => rfl
  | cons item rest inductionHypothesis =>
      simp only [List.mapM_cons, outcome_bind, inductionHypothesis]
      rfl

theorem outcome_option_mapM (step : α → Loading Id β) (value : Option α) :
    outcome (value.mapM step) = value.mapM fun item => outcome (step item) := by
  cases value with
  | none => rfl
  | some item =>
      rw [Option.mapM_some, Option.mapM_some]
      change outcome (step item >>= fun result => pure (some result)) = _
      rw [outcome_bind]
      rfl

theorem outcome_expand (field text : String) :
    outcome (expand world field text) = (expansion world text).mapError (.unset field) := rfl

/-- What the file of settings sets; its text is one that settings can be read from. -/
def IsRead (world : Surroundings Id) (file : String) (said : Overrides) : Prop :=
  ∃ document, (world.look file).run.text = .ok document ∧ IsWritten document said

/-- The folder that a file means, which lies below the folder of the file unless it is absolute. -/
def meantFolder (file folder : String) : String :=
  if Path.isAbsolute folder.toList then folder
  else String.ofList (Path.join ((Path.parent? file.toList).getD ['.']) folder.toList)

/-- The settings that a file gives once variables are put in and its folder is known, with the
defaults for all that it does not set. -/
structure Completes (world : Surroundings Id) (file : String) (said : Overrides)
    (settings : Settings) : Prop where
  themes : match said.themes with
    | some texts => List.Forall₂ (Expands world) texts settings.themes
    | none => settings.themes = Configuration.defaultThemes
  themeFolder : match said.themeFolder with
    | some text => ∃ folder, Expands world text folder ∧
        settings.themeFolder = some (meantFolder file folder)
    | none => settings.themeFolder = none
  gfm : settings.gfm = said.gfm.getD true
  path : settings.path = some file

theorem outcome_checked_eq_ok_iff {result : Settings} :
    outcome (checked settings) = .ok result ↔ settings.Sensible ∧ result = settings := by
  rw [← fault?_eq_none_iff]
  unfold checked
  cases settings.fault? <;> simp [@eq_comm _ result]

theorem outcome_checked_eq_error_iff :
    outcome (checked settings) = .error error ↔
      ∃ fault, settings.fault? = some fault ∧ error = .faulty fault := by
  unfold checked
  cases settings.fault? <;> simp [@eq_comm _ error]

theorem outcome_expandAll :
    outcome (expandAll world settings) = (do
      let themes ← settings.themes.mapM fun text =>
        (expansion world text).mapError (.unset "highlight.themes")
      let themeFolder ← settings.themeFolder.mapM fun text =>
        (expansion world text).mapError (.unset "highlight.theme_dir")
      pure { settings with themes := themes, themeFolder := themeFolder }) := by
  rw [expandAll, outcome_bind, outcome_mapM]
  simp only [outcome_bind, outcome_option_mapM, outcome_expand]
  rfl

/-- The settings that are written in a file, before variables are put in. -/
def written (world : Surroundings Id) (file : String) : Except SettingsError Settings :=
  match (world.look file).run.text with
  | .error failure => .error (.unreadable failure)
  | .ok document =>
      match read? document with
      | none => .error .malformed
      | some settings => .ok settings

theorem outcome_ofFile :
    outcome (ofFile world file) = written world file >>= fun settings =>
      outcome (expandAll world settings) >>= fun expanded =>
        outcome (checked (expanded.settle file)) := by
  change outcome (match (world.look file).run.text with
    | .error failure => _
    | .ok document => _) = _
  unfold written
  cases (world.look file).run.text with
  | error failure => rfl
  | ok document =>
      dsimp only
      cases read? document with
      | none => rfl
      | some written => exact outcome_bind _ _

theorem written_eq_ok_iff :
    written world file = .ok settings ↔
      ∃ said, IsRead world file said ∧ settings = ({} : Settings).override said := by
  unfold written IsRead
  cases (world.look file).run.text with
  | error failure => simp
  | ok document =>
      have isRead := @read?_eq_some_iff document settings
      cases found : read? document with
      | none => simpa [found] using isRead
      | some settings => simpa [found] using isRead

theorem written_eq_error_iff :
    written world file = .error error ↔
      (∃ failure, (world.look file).run.text = .error failure ∧ error = .unreadable failure) ∨
      ∃ document, (world.look file).run.text = .ok document ∧
        (∀ said, ¬ IsWritten document said) ∧ error = .malformed := by
  unfold written
  cases (world.look file).run.text with
  | error failure => simp [@eq_comm _ error]
  | ok document =>
      simp only [Except.ok.injEq, exists_eq_left', ← read?_eq_none_iff]
      cases read? document <;> simp [@eq_comm _ error]

theorem mapM_expansion_eq_ok_iff {texts contents : List String} :
    texts.mapM (expansion world) = .ok contents ↔
      List.Forall₂ (Expands world) texts contents := by
  rw [mapM_eq_ok_iff]
  simp only [expansion_eq_ok_iff]

theorem forall₂_defaultThemes {themes : List String} :
    List.Forall₂ (Expands world) Configuration.defaultThemes themes ↔
      themes = Configuration.defaultThemes := by
  have kept : List.Forall₂ (Expands world) Configuration.defaultThemes
      Configuration.defaultThemes :=
    List.forall₂_same.2 fun theme member =>
      expansion_eq_ok_iff.1 (expansion_defaultThemes theme member)
  rw [← mapM_expansion_eq_ok_iff] at kept ⊢
  rw [kept, Except.ok.injEq, eq_comm]

theorem outcome_expandAll_eq_ok_iff {written expanded : Settings} :
    outcome (expandAll world written) = .ok expanded ↔
      ∃ themes, List.Forall₂ (Expands world) written.themes themes ∧
        ∃ folder, written.themeFolder.mapM (expansion world) = .ok folder ∧
          expanded = { written with themes := themes, themeFolder := folder } := by
  rw [outcome_expandAll, bind_eq_ok_iff]
  simp only [mapM_eq_ok_iff, mapError_eq_ok_iff, bind_eq_ok_iff, option_mapM_eq_ok_iff,
    expansion_eq_ok_iff]
  refine exists_congr fun themes => and_congr_right fun _ => ?_
  refine exists_congr fun folder => and_congr_right fun _ => ?_
  exact (Except.ok.injEq _ expanded).to_iff.trans eq_comm

/-- Themes that a file does not set are the default ones, which expansion leaves as they are. -/
theorem forall₂_getD_defaultThemes {saidThemes : Option (List String)} {themes : List String} :
    List.Forall₂ (Expands world) (saidThemes.getD Configuration.defaultThemes) themes ↔
      match saidThemes with
      | some texts => List.Forall₂ (Expands world) texts themes
      | none => themes = Configuration.defaultThemes := by
  cases saidThemes with
  | some texts => rfl
  | none => exact forall₂_defaultThemes

theorem settle_eq (file : String) (settings : Settings) :
    settings.settle file = { settings with
      themeFolder := settings.themeFolder.map (meantFolder file), path := some file } := by
  have joined : ∀ folder : String,
      String.ofList (Path.join ((Path.parent? file.toList).getD ['.']) folder.toList) =
        meantFolder file folder := by
    intro folder
    unfold meantFolder
    split
    · rename_i absolute
      rw [Path.join, if_pos absolute, String.ofList_toList]
    · rfl
  simp only [settle, joined]

theorem exists_folder_iff {saidFolder found : Option String} :
    (∃ folder, saidFolder.mapM (expansion world) = .ok folder ∧
        found = folder.map (meantFolder file)) ↔
      match saidFolder with
      | some text => ∃ folder, Expands world text folder ∧
          found = some (meantFolder file folder)
      | none => found = none := by
  simp only [option_mapM_eq_ok_iff, expansion_eq_ok_iff]
  cases saidFolder with
  | none => simp
  | some text =>
      constructor
      · rintro ⟨_, ⟨folder, expands, rfl⟩, rfl⟩
        exact ⟨folder, expands, rfl⟩
      · rintro ⟨folder, expands, rfl⟩
        exact ⟨some folder, ⟨folder, expands, rfl⟩, rfl⟩

theorem exists_settle_iff_completes :
    (∃ expanded, outcome (expandAll world (({} : Settings).override said)) = .ok expanded ∧
      settings = expanded.settle file) ↔ Completes world file said settings := by
  simp only [outcome_expandAll_eq_ok_iff, override, Option.or_none, settle_eq]
  constructor
  · rintro ⟨_, ⟨themes, expandThemes, folder, expandFolder, rfl⟩, rfl⟩
    exact ⟨forall₂_getD_defaultThemes.1 expandThemes,
      exists_folder_iff.1 ⟨folder, expandFolder, rfl⟩, rfl, rfl⟩
  · intro completes
    obtain ⟨folder, expandFolder, joined⟩ := exists_folder_iff.2 completes.themeFolder
    refine ⟨_, ⟨settings.themes, forall₂_getD_defaultThemes.2 completes.themes, folder,
      expandFolder, rfl⟩, ?_⟩
    have sameGfm := completes.gfm
    have samePath := completes.path
    cases settings
    simp_all

theorem outcome_ofFile_eq_ok_iff :
    outcome (ofFile world file) = .ok settings ↔
      ∃ said, IsRead world file said ∧ Completes world file said settings ∧ settings.Sensible := by
  simp only [outcome_ofFile, bind_eq_ok_iff, written_eq_ok_iff, outcome_checked_eq_ok_iff,
    ← exists_settle_iff_completes]
  constructor
  · rintro ⟨_, ⟨said, isRead, rfl⟩, expanded, expands, sensible, rfl⟩
    exact ⟨said, isRead, ⟨expanded, expands, rfl⟩, sensible⟩
  · rintro ⟨said, isRead, ⟨expanded, expands, rfl⟩, sensible⟩
    exact ⟨_, ⟨said, isRead, rfl⟩, expanded, expands, sensible, rfl⟩

theorem outcome_expandAll_eq_error_iff :
    outcome (expandAll world settings) = .error error ↔
      (∃ name, FailFirst (expansion world) settings.themes name ∧
        error = .unset "highlight.themes" name) ∨
      Succeed (expansion world) settings.themes ∧ ∃ text, settings.themeFolder = some text ∧
        ∃ name, expansion world text = .error name ∧ error = .unset "highlight.theme_dir" name := by
  rw [outcome_expandAll, bind_eq_error_iff]
  simp only [mapM_eq_error_iff, failFirst_mapError]
  refine or_congr_right ?_
  have folder : ∀ themes : List String,
      ((settings.themeFolder.mapM fun text =>
          (expansion world text).mapError (SettingsError.unset "highlight.theme_dir")) >>=
        fun themeFolder => (pure { settings with themes := themes, themeFolder := themeFolder } :
          Except SettingsError Settings)) = .error error ↔
        ∃ text, settings.themeFolder = some text ∧
          ∃ name, expansion world text = .error name ∧
            error = .unset "highlight.theme_dir" name := by
    intro themes
    rw [bind_eq_error_iff, option_mapM_eq_error_iff]
    simp only [mapError_eq_error_iff]
    exact or_iff_left nofun
  simp only [folder]
  rw [exists_and_right, exists_mapM_eq_ok_iff, succeed_mapError]

theorem succeed_defaultThemes : Succeed (expansion world) Configuration.defaultThemes :=
  fun theme member => ⟨theme, expansion_defaultThemes theme member⟩

theorem failFirst_getD_defaultThemes {saidThemes : Option (List String)} {name : String} :
    FailFirst (expansion world) (saidThemes.getD Configuration.defaultThemes) name ↔
      ∃ before text after, saidThemes = some (before ++ text :: after) ∧
        (∀ other ∈ before, ∃ content, Expands world other content) ∧ Lacks world text name := by
  cases saidThemes with
  | some texts =>
      simp only [Option.getD_some, Option.some.injEq, FailFirst, Succeed, expansion_eq_ok_iff,
        expansion_eq_error_iff]
  | none =>
      refine iff_of_false (not_failFirst_of_succeed succeed_defaultThemes) ?_
      rintro ⟨_, _, _, same, _⟩
      contradiction

theorem succeed_getD_defaultThemes {saidThemes : Option (List String)} :
    Succeed (expansion world) (saidThemes.getD Configuration.defaultThemes) ↔
      ∀ texts, saidThemes = some texts →
        ∀ text ∈ texts, ∃ content, Expands world text content := by
  cases saidThemes with
  | some texts => simp [Succeed, expansion_eq_ok_iff]
  | none =>
      refine iff_of_true succeed_defaultThemes ?_
      intro texts same
      contradiction

/-- Why a file gives no settings. Each reason stands only where those before it do not. -/
inductive FileFails (world : Surroundings Id) (file : String) : SettingsError → Prop where
  | unreadable {failure : FileError} (unreadable : (world.look file).run.text = .error failure) :
      FileFails world file (.unreadable failure)
  | malformed {document : String} (isText : (world.look file).run.text = .ok document)
      (notWritten : ∀ said, ¬ IsWritten document said) : FileFails world file .malformed
  | unsetInTheme {said : Overrides} {before after : List String} {text name : String}
      (isRead : IsRead world file said) (themes : said.themes = some (before ++ text :: after))
      (expand : ∀ other ∈ before, ∃ content, Expands world other content)
      (lacks : Lacks world text name) : FileFails world file (.unset "highlight.themes" name)
  | unsetInFolder {said : Overrides} {text name : String} (isRead : IsRead world file said)
      (expand : ∀ texts, said.themes = some texts →
        ∀ theme ∈ texts, ∃ content, Expands world theme content)
      (folder : said.themeFolder = some text) (lacks : Lacks world text name) :
      FileFails world file (.unset "highlight.theme_dir" name)
  | faulty {said : Overrides} {settings : Settings} {fault : SettingsFault}
      (isRead : IsRead world file said) (completes : Completes world file said settings)
      (faulty : settings.fault? = some fault) : FileFails world file (.faulty fault)

theorem outcome_ofFile_eq_error_iff :
    outcome (ofFile world file) = .error error ↔ FileFails world file error := by
  rw [outcome_ofFile, bind_eq_error_iff, written_eq_error_iff]
  simp only [bind_eq_error_iff, written_eq_ok_iff, outcome_checked_eq_error_iff,
    outcome_expandAll_eq_error_iff]
  constructor
  · rintro ((⟨failure, isError, rfl⟩ | ⟨document, isText, notWritten, rfl⟩) |
      ⟨_, ⟨said, isRead, rfl⟩, (⟨name, fails, rfl⟩ | ⟨succeed, text, folder, name, fails, rfl⟩) |
        ⟨expanded, expands, fault, faulty, rfl⟩⟩)
    · exact .unreadable isError
    · exact .malformed isText notWritten
    · obtain ⟨before, text, after, themes, expand, lacks⟩ := failFirst_getD_defaultThemes.1 fails
      exact .unsetInTheme isRead themes expand lacks
    · exact .unsetInFolder isRead (succeed_getD_defaultThemes.1 succeed)
        ((Option.or_none).symm.trans folder) (expansion_eq_error_iff.1 fails)
    · exact .faulty isRead (exists_settle_iff_completes.1 ⟨expanded, expands, rfl⟩) faulty
  · intro fails
    cases fails with
    | unreadable isError => exact .inl (.inl ⟨_, isError, rfl⟩)
    | malformed isText notWritten => exact .inl (.inr ⟨_, isText, notWritten, rfl⟩)
    | unsetInTheme isRead themes expand lacks =>
        have failsFirst := failFirst_getD_defaultThemes.2 ⟨_, _, _, themes, expand, lacks⟩
        exact .inr ⟨_, ⟨_, isRead, rfl⟩, .inl (.inl ⟨_, failsFirst, rfl⟩)⟩
    | unsetInFolder isRead expand folder lacks =>
        have succeed := succeed_getD_defaultThemes.2 expand
        have fails := expansion_eq_error_iff.2 lacks
        exact .inr ⟨_, ⟨_, isRead, rfl⟩, .inl (.inr ⟨succeed, _, Option.or_none.trans folder, _,
          fails, rfl⟩)⟩
    | faulty isRead completes faulty =>
        obtain ⟨expanded, expands, rfl⟩ := exists_settle_iff_completes.2 completes
        exact .inr ⟨_, ⟨_, isRead, rfl⟩, .inr ⟨expanded, expands, _, faulty, rfl⟩⟩

end Listings.Settings
