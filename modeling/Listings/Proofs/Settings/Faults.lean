/-
This file says when settings have no fault, and which fault they have otherwise.
-/

import Listings.Settings.Basic
import Mathlib.Data.List.Nodup

namespace Listings.Settings

theorem isBlankName_iff {name : String} :
    isBlankName name = true ↔ ∀ c ∈ name.toList, Text.isBlank c = true :=
  List.all_eq_true

theorem isBlankName_eq_false_iff {name : String} :
    isBlankName name = false ↔ ∃ c ∈ name.toList, Text.isBlank c = false :=
  List.all_eq_false.trans (by simp)

/-- What is wrong with a name that comes after others. -/
def faultOf? (earlier : List String) (name : String) : Option SettingsFault :=
  if isBlankName name then some .blankTheme
  else if earlier.contains name then some (.repeatedTheme name)
  else none

/-- A blank name is reported as one even if it is repeated. -/
theorem faultOf?_eq_some_iff {earlier : List String} {name : String} {fault : SettingsFault} :
    faultOf? earlier name = some fault ↔
      (isBlankName name = true ∨ name ∈ earlier) ∧
        fault = if isBlankName name then .blankTheme else .repeatedTheme name := by
  rw [faultOf?, List.contains_eq_mem]
  cases isBlankName name with
  | true => simp [eq_comm]
  | false =>
      by_cases known : name ∈ earlier
      · simp [known, eq_comm]
      · simp [known]

theorem faultOf?_eq_none_iff {earlier : List String} {name : String} :
    faultOf? earlier name = none ↔ isBlankName name = false ∧ name ∉ earlier := by
  rw [faultOf?, List.contains_eq_mem]
  cases isBlankName name with
  | true => simp
  | false => simp

theorem faultAfter?_cons (earlier : List String) (name : String) (rest : List String) :
    faultAfter? earlier (name :: rest) =
      (faultOf? earlier name).or (faultAfter? (name :: earlier) rest) := by
  rw [faultAfter?, faultOf?]
  split
  · rfl
  · split <;> rfl

/-- Names are in order if each is new and has something to see. -/
theorem faultAfter?_eq_none_iff {earlier names : List String} :
    faultAfter? earlier names = none ↔
      (∀ name ∈ names, isBlankName name = false) ∧ names.Nodup ∧
        ∀ name ∈ names, name ∉ earlier := by
  induction names generalizing earlier with
  | nil => simp [faultAfter?]
  | cons name rest inductionHypothesis =>
      have ahead : (∀ other ∈ rest, other ∉ name :: earlier) ↔
          name ∉ rest ∧ ∀ other ∈ rest, other ∉ earlier := by
        simp only [List.mem_cons, not_or, forall_and]
        exact and_congr_left fun _ => List.forall_mem_ne'
      rw [faultAfter?_cons, Option.or_eq_none_iff, faultOf?_eq_none_iff, inductionHypothesis, ahead,
        List.nodup_cons, List.forall_mem_cons, List.forall_mem_cons]
      tauto

/-- A program can work with these settings. -/
structure Sensible (settings : Settings) : Prop where
  someTheme : settings.themes ≠ []
  noBlankTheme : ∀ name ∈ settings.themes, ∃ c ∈ name.toList, Text.isBlank c = false
  noRepeatedTheme : settings.themes.Nodup

theorem fault?_eq_none_iff {settings : Settings} :
    settings.fault? = none ↔ settings.Sensible := by
  have names : faultAfter? [] settings.themes = none ↔
      (∀ name ∈ settings.themes, isBlankName name = false) ∧ settings.themes.Nodup := by
    simp [faultAfter?_eq_none_iff]
  unfold fault?
  split
  · rename_i empty
    exact iff_of_false nofun fun sensible => sensible.someTheme (List.isEmpty_iff.1 empty)
  · rename_i nonempty
    rw [names]
    constructor
    · rintro ⟨visible, distinct⟩
      exact ⟨by simpa using nonempty,
        fun name member => isBlankName_eq_false_iff.1 (visible name member), distinct⟩
    · intro sensible
      exact ⟨fun name member => isBlankName_eq_false_iff.2 (sensible.noBlankTheme name member),
        sensible.noRepeatedTheme⟩

theorem sensible_default : Sensible {} :=
  fault?_eq_none_iff.1 (by decide)

/-- What is wrong at a position of names that come after others. -/
def faultAt? (earlier names : List String) (index : Nat) : Option SettingsFault :=
  names[index]?.bind (faultOf? ((names.take index).reverse ++ earlier))

theorem faultAt?_cons_succ (earlier : List String) (name : String) (rest : List String)
    (index : Nat) :
    faultAt? earlier (name :: rest) (index + 1) = faultAt? (name :: earlier) rest index := by
  simp [faultAt?]

/-- The fault of a list is that at the first position where something is wrong. -/
theorem faultAfter?_eq_some_iff {earlier names : List String} {fault : SettingsFault} :
    faultAfter? earlier names = some fault ↔
      ∃ index, faultAt? earlier names index = some fault ∧
        ∀ before < index, faultAt? earlier names before = none := by
  induction names generalizing earlier with
  | nil => simp [faultAfter?, faultAt?]
  | cons name rest inductionHypothesis =>
      have first : faultAt? earlier (name :: rest) 0 = faultOf? earlier name := rfl
      -- The first position is that of the head, or nothing is wrong there and it is in the rest.
      rw [faultAfter?_cons, ← Nat.or_exists_add_one]
      simp only [Nat.forall_lt_succ_left, first, faultAt?_cons_succ]
      cases faultOf? earlier name with
      | some found => simp
      | none => simp [inductionHypothesis]

/-- A blank name stands at the position, or one that stands before it as well. -/
def IsFaultyAt (names : List String) (index : Nat) : Prop :=
  ∃ name, names[index]? = some name ∧
    ((∀ c ∈ name.toList, Text.isBlank c = true) ∨ ∃ earlier < index, names[earlier]? = some name)

theorem mem_take_iff {names : List String} {index : Nat} {name : String} :
    name ∈ names.take index ↔ ∃ earlier < index, names[earlier]? = some name := by
  rw [List.mem_iff_getElem?]
  refine exists_congr fun earlier => ?_
  rw [List.getElem?_take]
  split
  · rename_i less
    rw [and_iff_right less]
  · rename_i notLess
    exact iff_of_false nofun fun both => notLess both.1

theorem faultAt?_nil_eq_some_iff {names : List String} {index : Nat} {fault : SettingsFault} :
    faultAt? [] names index = some fault ↔
      ∃ name, names[index]? = some name ∧
        (isBlankName name = true ∨ ∃ earlier < index, names[earlier]? = some name) ∧
        fault = if isBlankName name then .blankTheme else .repeatedTheme name := by
  rw [faultAt?, Option.bind_eq_some_iff]
  simp only [faultOf?_eq_some_iff, List.append_nil, List.mem_reverse, mem_take_iff]

theorem faultAt?_nil_eq_none_iff {names : List String} {index : Nat} :
    faultAt? [] names index = none ↔ ¬ IsFaultyAt names index := by
  rw [← Option.not_isSome_iff_eq_none, not_iff_not, Option.isSome_iff_exists]
  simp only [faultAt?_nil_eq_some_iff, isBlankName_iff]
  constructor
  · rintro ⟨_, name, isName, wrong, _⟩
    exact ⟨name, isName, wrong⟩
  · rintro ⟨name, isName, wrong⟩
    exact ⟨_, name, isName, wrong, rfl⟩

theorem fault?_eq_some_iff {settings : Settings} {fault : SettingsFault} :
    settings.fault? = some fault ↔
      settings.themes = [] ∧ fault = .noTheme ∨
        faultAfter? [] settings.themes = some fault := by
  rw [fault?]
  split
  · rename_i empty
    have noThemes := List.isEmpty_iff.1 empty
    rw [noThemes]
    simp [faultAfter?, eq_comm]
  · rename_i nonempty
    rw [List.isEmpty_iff] at nonempty
    simp [nonempty]

/-- Settings have no fault exactly if they name some theme, no blank one and none twice. Otherwise
the first position that breaks this decides the fault, and at it that a name is blank comes before
that it is repeated. -/
theorem fault?_is_first_in_order (settings : Settings) :
    let themes := settings.themes
    (settings.fault? = none ↔
      themes ≠ [] ∧ (∀ name ∈ themes, ∃ c ∈ name.toList, Text.isBlank c = false) ∧
        themes.Pairwise (· ≠ ·)) ∧
    (∀ fault, settings.fault? = some fault ↔
      themes = [] ∧ fault = .noTheme ∨
        ∃ index name, themes[index]? = some name ∧
          IsFaultyAt themes index ∧ (∀ before < index, ¬ IsFaultyAt themes before) ∧
          fault = if name.toList.all Text.isBlank then .blankTheme else .repeatedTheme name) ∧
    SettingsFault.noTheme.message = "highlight.themes must name at least one theme" ∧
    SettingsFault.blankTheme.message = "highlight.themes cannot contain empty names" ∧
    ∀ name, (SettingsFault.repeatedTheme name).message =
      "highlight.themes lists `" ++ name ++ "` more than once" := by
  intro themes
  refine ⟨?_, fun fault => ?_, rfl, rfl, fun _ => rfl⟩
  · rw [fault?_eq_none_iff]
    exact ⟨fun sensible => ⟨sensible.someTheme, sensible.noBlankTheme, sensible.noRepeatedTheme⟩,
      fun ⟨someTheme, noBlank, noRepeated⟩ => ⟨someTheme, noBlank, noRepeated⟩⟩
  · rw [fault?_eq_some_iff, faultAfter?_eq_some_iff]
    simp only [faultAt?_nil_eq_some_iff, faultAt?_nil_eq_none_iff]
    refine or_congr_right (exists_congr fun index => ?_)
    constructor
    · rintro ⟨⟨name, isName, wrong, isFault⟩, first⟩
      exact ⟨name, isName, ⟨name, isName, wrong.imp_left isBlankName_iff.1⟩, first, isFault⟩
    · rintro ⟨name, isName, ⟨other, isOther, wrong⟩, first, isFault⟩
      cases isName.symm.trans isOther
      exact ⟨⟨name, isName, wrong.imp_left isBlankName_iff.2, isFault⟩, first⟩

example : fault? { themes := ["a", " a", "b", "b", " "] } = some (.repeatedTheme "b") := by decide

end Listings.Settings
