/-
This file says which themes an engine gets, and why it cannot be made.
-/

import Listings.Engine.Grammars
import Listings.Proofs.FirstError
import Listings.Proofs.NamedEntries
import Mathlib.Data.List.Sort
import Mathlib.Data.String.Basic

namespace Listings

namespace ThemeSet

variable {themes selected : ThemeSet} {name : String} {names : List String} {error : EngineError}

theorem remove_eq (name : String) (themes : ThemeSet) :
    themes.remove name = themes.filter fun entry => entry.1 ≠ name := by
  apply List.filter_congr
  intro entry _
  rw [Bool.eq_iff_iff]
  simp

theorem lookup_remove (themes : ThemeSet) (name other : String) :
    (themes.remove name).lookup other = if other = name then none else themes.lookup other := by
  rw [remove_eq]
  exact lookup_filter_ne name other themes

/-- The themes that are left when those of some names were taken out. -/
def without (names : List String) (themes : ThemeSet) : ThemeSet :=
  themes.filter fun entry => entry.1 ∉ names

theorem without_nil (themes : ThemeSet) : themes.without [] = themes := by
  simp [without]

theorem without_cons (name : String) (names : List String) (themes : ThemeSet) :
    themes.without (name :: names) = (themes.remove name).without names := by
  rw [remove_eq, without, without, List.filter_filter]
  apply List.filter_congr
  intro entry _
  simp [not_or, Bool.and_comm]

theorem map_fst_without (names : List String) (themes : ThemeSet) :
    (themes.without names).map Prod.fst = (themes.map Prod.fst).filter (· ∉ names) := by
  rw [List.filter_map]
  rfl

/-- Each name is that of a theme, and none is asked for a second time. -/
@[mk_iff]
structure Offers (themes : ThemeSet) (names : List String) : Prop where
  distinct : names.Nodup
  known : ∀ name ∈ names, name ∈ themes.map Prod.fst

theorem mem_map_fst_remove {other : String} :
    other ∈ (themes.remove name).map Prod.fst ↔ other ≠ name ∧ other ∈ themes.map Prod.fst := by
  rw [← exists_lookup_eq_some_iff, ← exists_lookup_eq_some_iff, lookup_remove]
  by_cases same : other = name
  · simp [same]
  · simp [same]

theorem offers_nil (themes : ThemeSet) : themes.Offers [] :=
  ⟨List.nodup_nil, nofun⟩

/-- What is taken out cannot be asked for again. -/
theorem offers_cons :
    themes.Offers (name :: names) ↔
      name ∈ themes.map Prod.fst ∧ (themes.remove name).Offers names := by
  constructor
  · intro offers
    obtain ⟨isKnown, restKnown⟩ := List.forall_mem_cons.1 offers.known
    obtain ⟨isNew, restDistinct⟩ := List.nodup_cons.1 offers.distinct
    refine ⟨isKnown, restDistinct, ?_⟩
    intro other member
    have different : other ≠ name := fun same => isNew (same ▸ member)
    exact mem_map_fst_remove.2 ⟨different, restKnown other member⟩
  · rintro ⟨isKnown, offers⟩
    have known : ∀ other ∈ names, other ≠ name ∧ other ∈ themes.map Prod.fst :=
      fun other member => mem_map_fst_remove.1 (offers.known other member)
    have isNew : name ∉ names := fun member => (known name member).1 rfl
    refine ⟨List.nodup_cons.2 ⟨isNew, offers.distinct⟩, ?_⟩
    exact List.forall_mem_cons.2 ⟨isKnown, fun other member => (known other member).2⟩

theorem exists_select_eq_ok_iff :
    (∃ selected, themes.select names = .ok selected) ↔ themes.Offers names := by
  induction names generalizing themes with
  | nil => exact iff_of_true ⟨[], rfl⟩ (offers_nil themes)
  | cons name rest inductionHypothesis =>
      rw [offers_cons, ← inductionHypothesis, ← exists_lookup_eq_some_iff, select]
      cases themes.lookup name with
      | none => simp
      | some theme => simpa using exists_bind_pure_eq_ok_iff

/-- Under the names that were asked for stands what the set has there. -/
theorem lookup_select (selects : themes.select names = .ok selected) (other : String) :
    selected.lookup other = if other ∈ names then themes.lookup other else none := by
  induction names generalizing themes selected with
  | nil =>
      cases selects
      rfl
  | cons name rest inductionHypothesis =>
      rw [select] at selects
      cases found : themes.lookup name with
      | none =>
          rw [found] at selects
          contradiction
      | some theme =>
          rw [found] at selects
          obtain ⟨others, selectsRest, done⟩ := bind_eq_ok_iff.1 selects
          cases done
          rw [lookup_cons_eq_ite, inductionHypothesis selectsRest, lookup_remove]
          by_cases same : other = name
          · simp [same, found]
          · simp [same]

/-- All names up to one are offered, and that one is not, or not any more. The error tells what is
left of the set when those before it took out theirs. -/
def Refuses (themes : ThemeSet) (names : List String) (error : EngineError) : Prop :=
  ∃ before name after, names = before ++ name :: after ∧ themes.Offers before ∧
    (name ∈ before ∨ name ∉ themes.map Prod.fst) ∧
    error = .unknownTheme name (some (themes.without before).names)

theorem not_refuses_nil : ¬ themes.Refuses [] error := by
  rintro ⟨before, name, after, split, _⟩
  cases before <;> contradiction

theorem refuses_cons :
    themes.Refuses (name :: names) error ↔
      name ∉ themes.map Prod.fst ∧ error = .unknownTheme name (some themes.names) ∨
      name ∈ themes.map Prod.fst ∧ (themes.remove name).Refuses names error := by
  have again : ∀ {before : List String} {other : String},
      other ∈ name :: before ∨ other ∉ themes.map Prod.fst ↔
        other ∈ before ∨ other ∉ (themes.remove name).map Prod.fst := by
    -- A name that comes again is one that is not there any more.
    intro before other
    rw [mem_map_fst_remove, List.mem_cons]
    tauto
  constructor
  · rintro ⟨before, other, after, split, offers, refused, isError⟩
    cases before with
    | nil =>
        cases split
        rw [without_nil] at isError
        exact Or.inl ⟨refused.resolve_left List.not_mem_nil, isError⟩
    | cons first before =>
        cases split
        obtain ⟨isKnown, offersRest⟩ := offers_cons.1 offers
        rw [without_cons] at isError
        exact Or.inr ⟨isKnown, before, other, after, rfl, offersRest, again.1 refused, isError⟩
  · rintro (⟨unknown, isError⟩ | ⟨isKnown, before, other, after, split, offers, refused, isError⟩)
    · rw [← without_nil themes] at isError
      exact ⟨[], name, names, rfl, offers_nil themes, Or.inr unknown, isError⟩
    · rw [← without_cons] at isError
      exact ⟨name :: before, other, after, congrArg (name :: ·) split,
        offers_cons.2 ⟨isKnown, offers⟩, again.2 refused, isError⟩

theorem select_eq_error_iff : themes.select names = .error error ↔ themes.Refuses names error := by
  induction names generalizing themes with
  | nil => exact iff_of_false nofun not_refuses_nil
  | cons name rest inductionHypothesis =>
      rw [refuses_cons, ← inductionHypothesis, ← exists_lookup_eq_some_iff, select]
      cases themes.lookup name with
      | none => simp [@eq_comm _ error]
      | some theme =>
          have isKnown : ∃ found, some theme = some found := ⟨theme, rfl⟩
          rw [or_iff_right fun unknown => unknown.1 isKnown, and_iff_right isKnown]
          exact map_eq_error_iff

theorem names_eq_iff {available : List String} :
    themes.names = available ↔
      available.Pairwise (· ≤ ·) ∧ available.Perm (themes.map Prod.fst) := by
  have isSorted : themes.names.Pairwise (· ≤ ·) := List.pairwise_mergeSort' (· ≤ ·) _
  have isPerm : themes.names.Perm (themes.map Prod.fst) := List.mergeSort_perm _ _
  constructor
  · intro same
    cases same
    exact ⟨isSorted, isPerm⟩
  · rintro ⟨availableSorted, availablePerm⟩
    exact (isPerm.trans availablePerm.symm).eq_of_pairwise' isSorted availableSorted

theorem refuses_iff_exists_available :
    themes.Refuses names error ↔
      ∃ before name after available, names = before ++ name :: after ∧
        (before.Nodup ∧ ∀ earlier ∈ before, earlier ∈ themes.map Prod.fst) ∧
        (name ∈ before ∨ name ∉ themes.map Prod.fst) ∧
        available.Pairwise (· ≤ ·) ∧
        available.Perm ((themes.map Prod.fst).filter (· ∉ before)) ∧
        error = .unknownTheme name (some available) := by
  constructor
  · rintro ⟨before, name, after, split, offers, refused, isError⟩
    obtain ⟨isSorted, isPerm⟩ := names_eq_iff.1 (Eq.refl (themes.without before).names)
    rw [map_fst_without] at isPerm
    rw [offers_iff] at offers
    exact ⟨before, name, after, _, split, offers, refused, isSorted, isPerm, isError⟩
  · rintro ⟨before, name, after, available, split, offers, refused, isSorted, isPerm, isError⟩
    rw [← map_fst_without] at isPerm
    rw [← names_eq_iff.2 ⟨isSorted, isPerm⟩] at isError
    exact ⟨before, name, after, split, (offers_iff ..).2 offers, refused, isError⟩

end ThemeSet

namespace Grammars

variable {grammars : List Grammar} {themes : ThemeSet} {names : List String} {name : String}

theorem palette_of_lookup {theme : Theme} (found : themes.lookup name = some theme) :
    (engine grammars themes).palette name = .ok (theme.palette name) := by
  change themes.palette name = _
  rw [ThemeSet.palette, ThemeSet.find, found]
  rfl

theorem palette_of_lookup_none (missing : themes.lookup name = none) :
    (engine grammars themes).palette name = .error (.unknownTheme name) := by
  change themes.palette name = _
  rw [ThemeSet.palette, ThemeSet.find, missing]
  rfl

theorem tokenize_of_lookup {theme : Theme} (found : themes.lookup name = some theme)
    (text language : String) :
    (engine grammars themes).tokenize text language name =
      (Grammar.scoping (Grammar.find? grammars)).tokenize (fun _ => .ok theme.look)
        text language name := by
  change tokenize grammars themes text language name = _
  rw [tokenize, Scoping.tokenize, Scoping.tokenize, ThemeSet.look, ThemeSet.find, found]
  rfl

theorem tokenize_of_lookup_none (missing : themes.lookup name = none) {language : String}
    (isKnown : (engine grammars themes).hasLanguage language) (text : String) :
    (engine grammars themes).tokenize text language name = .error (.unknownTheme name) := by
  obtain ⟨grammar, found⟩ := Option.isSome_iff_exists.1 isKnown
  have start : (Grammar.scoping (Grammar.find? grammars)).start? language =
      some (grammar, .start grammar) := congrArg (Option.map _) found
  change tokenize grammars themes text language name = _
  rw [tokenize, Scoping.tokenize, start, ThemeSet.look, ThemeSet.find, missing]
  rfl

/-- A set has each of its themes to give once: names that stand in it and differ make an engine,
which knows the themes of these names and no others. Otherwise the error tells the first name that
is not there, or that an earlier one took out, and what those before it left. -/
theorem create_takes_each_theme_once (grammars : List Grammar) (themes : ThemeSet)
    (names : List String) :
    ((∃ engine, create grammars themes ⟨names⟩ = .ok engine) ↔
      names.Nodup ∧ ∀ name ∈ names, name ∈ themes.map Prod.fst) ∧
    (∀ engine, create grammars themes ⟨names⟩ = .ok engine →
      (∀ name ∈ names, ∃ theme, themes.lookup name = some theme ∧
        engine.palette name = .ok (theme.palette name) ∧
        ∀ text language, engine.tokenize text language name =
          (Grammar.scoping (Grammar.find? grammars)).tokenize (fun _ => .ok theme.look)
            text language name) ∧
      ∀ name ∉ names, engine.palette name = .error (.unknownTheme name) ∧
        ∀ text language, engine.hasLanguage language →
          engine.tokenize text language name = .error (.unknownTheme name)) ∧
    ∀ error, create grammars themes ⟨names⟩ = .error error ↔
      ∃ before name after available, names = before ++ name :: after ∧
        (before.Nodup ∧ ∀ earlier ∈ before, earlier ∈ themes.map Prod.fst) ∧
        (name ∈ before ∨ name ∉ themes.map Prod.fst) ∧
        available.Pairwise (· ≤ ·) ∧
        available.Perm ((themes.map Prod.fst).filter (· ∉ before)) ∧
        error = .unknownTheme name (some available) := by
  refine ⟨?succeeds, ?finds, ?fails⟩
  case succeeds =>
    rw [create, exists_map_eq_ok_iff, ThemeSet.exists_select_eq_ok_iff, ThemeSet.offers_iff]
  case finds =>
    intro engine created
    obtain ⟨selected, selects, rfl⟩ := map_eq_ok_iff.1 created
    have offers := ThemeSet.exists_select_eq_ok_iff.1 ⟨selected, selects⟩
    constructor
    · intro name isListed
      obtain ⟨theme, inSet⟩ := exists_lookup_eq_some_iff.2 (offers.known name isListed)
      have found : selected.lookup name = some theme := by
        rw [ThemeSet.lookup_select selects, if_pos isListed, inSet]
      exact ⟨theme, inSet, palette_of_lookup found, tokenize_of_lookup found⟩
    · intro name notListed
      have missing : selected.lookup name = none := by
        rw [ThemeSet.lookup_select selects, if_neg notListed]
      exact ⟨palette_of_lookup_none missing,
        fun text language isKnown => tokenize_of_lookup_none missing isKnown text⟩
  case fails =>
    intro error
    rw [create, map_eq_error_iff, ThemeSet.select_eq_error_iff,
      ThemeSet.refuses_iff_exists_available]

/-- The name that comes twice stands in the set, and the error says of it that it is not known. -/
theorem create_refuses_theme_listed_twice :
    (∀ name ∈ ["t", "t"], name ∈ List.map Prod.fst [("t", ({} : Theme))]) ∧
      create [] [("t", {})] ⟨["t", "t"]⟩ = .error (.unknownTheme "t" (some [])) := by
  have noneLeft : ThemeSet.names [] = [] :=
    ThemeSet.names_eq_iff.2 ⟨List.Pairwise.nil, List.Perm.nil⟩
  constructor
  · simp
  · change Except.error (EngineError.unknownTheme "t" (some (ThemeSet.names []))) = _
    rw [noneLeft]

theorem create_takes_each_theme_once_of_one :
    ∃ grammar : Grammar, ∃ engine,
      create [grammar] [("dark", {}), ("light", {})] ⟨["light"]⟩ = .ok engine ∧
        (∃ palette, engine.palette "light" = .ok palette) ∧
        engine.palette "dark" = .error (.unknownTheme "dark") ∧
        engine.tokenize "1" "plain" "dark" = .error (.unknownTheme "dark") ∧
        create [grammar] [("dark", {}), ("light", {})] ⟨["light", "night"]⟩ =
          .error (.unknownTheme "night" (some ["dark"])) := by
  let grammar : Grammar :=
    { name := "Plain", extensions := ["plain"], scope := ⟨["source"]⟩, contexts := [] }
  let themes : ThemeSet := [("dark", {}), ("light", {})]
  have created : create [grammar] themes ⟨["light"]⟩ = .ok (engine [grammar] [("light", {})]) := rfl
  obtain ⟨_, finds, _⟩ := create_takes_each_theme_once [grammar] themes ["light"]
  obtain ⟨ofListed, ofOthers⟩ := finds _ created
  obtain ⟨theme, _, palette, _⟩ := ofListed "light" (by decide)
  obtain ⟨noPalette, noLines⟩ := ofOthers "dark" (by decide)
  obtain ⟨_, _, fails⟩ := create_takes_each_theme_once [grammar] themes ["light", "night"]
  have failed := (fails _).2 ⟨["light"], "night", [], ["dark"], rfl, by decide, by decide,
    by decide, by decide, rfl⟩
  exact ⟨grammar, _, created, ⟨_, palette⟩, noPalette, noLines "1" "plain" rfl, failed⟩

end Grammars

end Listings
