/-
This file compares the classes of a highlighted root with those that its HTML gives it.
-/

import Listings.Bundle
import Listings.Proofs.Highlighter.Themes
import Listings.Proofs.Markup.OpeningTag
import Listings.Proofs.Settings.Faults

namespace Listings

open Markup

namespace Markup.Element

variable {element : Element} {theme : String}

theorem hasClass_iff {classes : List String} (listed : element.attribute? "class" =
    some (.list classes)) (name : String) : element.hasClass name = true ↔ name ∈ classes := by
  rw [hasClass, listed]
  exact List.contains_iff_mem

/-- The name of a theme comes after a class that all roots have. -/
theorem classesOf_html_of_theme (named : element.wellNamed = true)
    (classes : element.attribute? "class" = some (.list ["shiki", theme])) :
    (attributesOf element.html).lookup "class" = some (.text ("shiki " ++ theme)) ∧
      classesOf element.html = "shiki" :: classNames theme.toList := by
  refine ⟨?_, ?_⟩
  · rw [lookup_attributesOf_html named, classes]
    rfl
  · rw [classesOf_html named classes, List.flatMap_cons, List.flatMap_singleton]
    rfl

/-- Tree and HTML have the same classes if the name of the theme is one class. -/
theorem hasClass_iff_mem_classesOf (named : element.wellNamed = true)
    (classes : element.attribute? "class" = some (.list ["shiki", theme])) (visible : theme ≠ "") :
    (∀ name, element.hasClass name = true ↔ name ∈ classesOf element.html) ↔
      ∀ c ∈ theme.toList, isSpace c = false := by
  have written := (classesOf_html_of_theme named classes).2
  constructor
  · intro same
    have member : theme ∈ classesOf element.html :=
      (same theme).1 ((hasClass_iff classes theme).2 (by simp))
    rw [written] at member
    rcases List.mem_cons.1 member with rfl | inTheme
    · exact no_space_of_all (by decide)
    · exact no_space_of_mem_classNames inTheme
  · intro whole name
    rw [hasClass_iff classes, written, (classNames_eq_singleton_iff visible).2 whole]

end Markup.Element

theorem ThemeSet.name_of_palette {themes : ThemeSet} {name : String} {palette : Palette}
    (found : themes.palette name = .ok palette) : palette.name = name := by
  obtain ⟨theme, _, made⟩ := bind_eq_ok_iff.1 found
  cases made
  rfl

namespace Highlighter

open Highlighting

/-- In the HTML of a root, the name of the theme stands in the list of classes as it is. It is one
class there, as it is in the tree, exactly if it has no space in it, and settings without a fault
may well name a theme with spaces. -/
theorem theme_is_one_class_iff_without_space {σ : Type} (settings : Settings)
    (faultless : settings.fault? = none) (factory : Factory) (cache : Cache)
    (configured : cache.configuration = settings.configuration)
    (named : ∀ engine, cache.engineInUse factory = .ok engine → ∀ name palette,
      engine.palette name = .ok palette → palette.name = name)
    (text : String) (language : Option String) (directive : Directive)
    (keepsLook : directive.KeepsLook) (wellNamed : directive.attributes.wellNamed = true)
    (state : σ) (roots : List Element)
    (succeeds : ((highlight factory text language directive []).run state cache).value.1 =
      .ok roots) :
    roots.length = settings.themes.length ∧
    ∀ (index : Nat) (theme : String), settings.themes[index]? = some theme →
      ∃ root, roots[index]? = some root ∧
        (attributesOf root.html).lookup "class" = some (.text ("shiki " ++ theme)) ∧
        classesOf root.html = "shiki" :: classNames theme.toList ∧
        (∀ name, root.hasClass name = true ↔ name = "shiki" ∨ name = theme) ∧
        (classesOf root.html = ["shiki", theme] ↔ ∀ c ∈ theme.toList, isSpace c = false) ∧
        ((∀ name, root.hasClass name = true ↔ name ∈ classesOf root.html) ↔
          ∀ c ∈ theme.toList, isSpace c = false) := by
  obtain ⟨engine, inUse, pairs⟩ := forall₂_of_highlight_ok succeeds
  rw [configured] at pairs
  refine ⟨pairs.length_eq.symm, ?_⟩
  intro index theme isTheme
  obtain ⟨root, isThere, isRoot⟩ := exists_getElem?_of_forall₂ pairs isTheme
  obtain ⟨palette, found, classes, _⟩ := isRoot.look keepsLook
  rw [named engine inUse theme palette found] at classes
  have readable := isRoot.wellNamed wellNamed
  have visible : theme ≠ "" := by
    rintro rfl
    obtain ⟨c, member, _⟩ := (Settings.fault?_eq_none_iff.1 faultless).noBlankTheme ""
      (List.mem_of_getElem? isTheme)
    contradiction
  obtain ⟨value, written⟩ := Element.classesOf_html_of_theme readable classes
  refine ⟨root, isThere, value, written, ?_, ?_,
    Element.hasClass_iff_mem_classesOf readable classes visible⟩
  · intro name
    rw [Element.hasClass_iff classes, List.mem_pair]
  · rw [written, List.cons_inj_right, classNames_eq_singleton_iff visible]

theorem theme_is_one_class_iff_without_space_of_dark :
    let settings : Settings := { themes := ["dark", "light"] }
    settings.fault? = none ∧ ∃ root,
      ((highlight Keyword.factory "let x" (some "rust") {} []).run ()
        { configuration := settings.configuration }).value.1.toOption.bind (·[0]?) = some root ∧
      classesOf root.html = ["shiki", "dark"] := by
  intro settings
  have faultless : settings.fault? = none := by decide
  obtain ⟨roots, succeeds⟩ : ∃ roots, ((highlight Keyword.factory "let x" (some "rust") {} []).run
      () { configuration := settings.configuration }).value.1 = .ok roots := ⟨_, rfl⟩
  obtain ⟨_, each⟩ := theme_is_one_class_iff_without_space settings faultless Keyword.factory
    { configuration := settings.configuration } rfl (by
      intro engine inUse name palette found
      cases inUse
      exact Keyword.name_of_palette found) "let x" (some "rust") {} ⟨rfl, rfl⟩ rfl () roots succeeds
  obtain ⟨root, isThere, _, _, _, single, _⟩ := each 0 "dark" rfl
  refine ⟨faultless, root, ?_, single.2 (no_space_of_all (by decide))⟩
  rw [succeeds]
  exact isThere

theorem name_with_space_is_two_classes :
    let settings : Settings := { themes := ["Solarized (dark)"] }
    let cache : Cache := { configuration := settings.configuration }
    settings.fault? = none ∧
    (∀ engine, cache.engineInUse (Bundle.factory []) = .ok engine → ∀ name palette,
      engine.palette name = .ok palette → palette.name = name) ∧
    ((highlight (Bundle.factory []) "x" none {} []).run () cache).value.1.map
        (List.map fun root => (root.hasClass "Solarized (dark)", classesOf root.html)) =
      .ok [(true, ["shiki", "Solarized", "(dark)"])] := by
  refine ⟨by decide, ?_, by decide +kernel⟩
  intro engine inUse name palette found
  cases inUse
  exact ThemeSet.name_of_palette found

end Highlighter

end Listings
