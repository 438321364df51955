/-
This file compares the languages that an engine lists with those that it knows.
-/

import Listings.Proofs.Grammar.Failures
import Listings.Proofs.Highlighter.Failures
import Listings.Proofs.Text.Case
import Mathlib.Data.List.Sort
import Mathlib.Data.String.Basic

namespace Listings

open Text

/-- The list of the engine has the language, up to the case of `a` to `z`. -/
def Engine.Lists (engine : Engine) (language : String) : Prop :=
  ∃ listed ∈ engine.languages, sameIgnoringAsciiCase listed language

instance (engine : Engine) (language : String) : Decidable (engine.Lists language) :=
  inferInstanceAs (Decidable (∃ listed ∈ engine.languages, sameIgnoringAsciiCase listed language))

namespace Grammar

/-- The name of the grammar in the list of languages. -/
def listedName (grammar : Grammar) : String := String.ofList (lower grammar.name.toList)

/-- The language is an extension of the grammar, up to the case of `a` to `z`. -/
def HasExtension (grammar : Grammar) (language : String) : Prop :=
  ∃ extension ∈ grammar.extensions, sameIgnoringAsciiCase extension language

variable {grammars : List Grammar} {language : String}

theorem exists_findLast?_iff {accepts : Grammar → Bool} :
    (findLast? accepts grammars).isSome ↔ ∃ grammar ∈ grammars, accepts grammar := by
  simp [findLast?, List.find?_isSome]

theorem isSome_find?_iff :
    (find? grammars language).isSome ↔ ∃ grammar ∈ grammars,
      grammar.HasExtension language ∨ sameIgnoringAsciiCase grammar.name language := by
  rw [find?, Option.isSome_or, Bool.or_eq_true, exists_findLast?_iff, exists_findLast?_iff,
    ← exists_or]
  refine exists_congr fun grammar => ?_
  rw [← and_or_left, List.any_eq_true]
  rfl

end Grammar

namespace Grammars

variable {grammars : List Grammar} {themes : ThemeSet} {language other : String}

theorem hasLanguage_iff :
    (engine grammars themes).hasLanguage language ↔ ∃ grammar ∈ grammars,
      grammar.HasExtension language ∨ sameIgnoringAsciiCase grammar.name language :=
  Grammar.isSome_find?_iff

theorem hasLanguage_name {grammar : Grammar} (member : grammar ∈ grammars) :
    (engine grammars themes).hasLanguage grammar.name :=
  hasLanguage_iff.2 ⟨grammar, member, Or.inr (sameIgnoringAsciiCase_self grammar.name)⟩

theorem mem_languages_iff :
    language ∈ (engine grammars themes).languages ↔ ∃ grammar ∈ grammars,
      language ∈ grammar.extensions ∨ language = grammar.listedName := by
  refine List.mem_flatMap.trans (exists_congr fun grammar => and_congr_right fun _ => ?_)
  exact List.mem_cons.trans or_comm

theorem lists_of_mem {engine : Engine} (isListed : language ∈ engine.languages) :
    engine.Lists language :=
  ⟨language, isListed, sameIgnoringAsciiCase_self language⟩

theorem lists_listedName {grammar : Grammar} (member : grammar ∈ grammars) :
    (engine grammars themes).Lists grammar.listedName :=
  lists_of_mem (mem_languages_iff.2 ⟨grammar, member, Or.inr rfl⟩)

theorem hasLanguage_congr (same : sameIgnoringAsciiCase other language) :
    (engine grammars themes).hasLanguage other ↔ (engine grammars themes).hasLanguage language := by
  rw [hasLanguage_iff, hasLanguage_iff]
  simp only [Grammar.HasExtension, sameIgnoringAsciiCase_iff] at same ⊢
  rw [same]

theorem lists_congr {engine : Engine} (same : sameIgnoringAsciiCase other language) :
    engine.Lists other ↔ engine.Lists language := by
  simp only [Engine.Lists, sameIgnoringAsciiCase_iff] at same ⊢
  rw [same]

/-- A known language is missing from the list only if it is a name with other capitals than
`A` to `Z`. -/
theorem lists_of_hasLanguage (known : (engine grammars themes).hasLanguage language) :
    (engine grammars themes).Lists language ∨ ∃ grammar ∈ grammars,
      ¬ OnlyAsciiCapitals grammar.name.toList ∧ sameIgnoringAsciiCase grammar.name language := by
  obtain ⟨grammar, member, ⟨extension, isExtension, same⟩ | same⟩ := hasLanguage_iff.1 known
  · exact Or.inl ⟨extension, mem_languages_iff.2 ⟨grammar, member, Or.inl isExtension⟩, same⟩
  · by_cases only : OnlyAsciiCapitals grammar.name.toList
    · have sameLower := (sameIgnoringAsciiCase_lower_iff grammar.name).2 only
      rw [← lists_congr same, ← lists_congr sameLower]
      exact Or.inl (lists_listedName member)
    · exact Or.inr ⟨grammar, member, only, same⟩

/-- What is listed is known, unless it stands for a name with other capitals than `A` to `Z`. -/
theorem hasLanguage_of_mem (isListed : language ∈ (engine grammars themes).languages) :
    (engine grammars themes).hasLanguage language ∨ ∃ grammar ∈ grammars,
      ¬ OnlyAsciiCapitals grammar.name.toList ∧ language = grammar.listedName := by
  obtain ⟨grammar, member, isExtension | rfl⟩ := mem_languages_iff.1 isListed
  · exact Or.inl (hasLanguage_iff.2
      ⟨grammar, member, Or.inl ⟨language, isExtension, sameIgnoringAsciiCase_self language⟩⟩)
  · by_cases only : OnlyAsciiCapitals grammar.name.toList
    · have sameLower := (sameIgnoringAsciiCase_lower_iff grammar.name).2 only
      exact Or.inl ((hasLanguage_congr sameLower).2 (hasLanguage_name member))
    · exact Or.inr ⟨grammar, member, only, rfl⟩

/-- For list and lookup to agree they must agree on the names. -/
theorem agree_iff :
    (∀ language, (engine grammars themes).hasLanguage language ↔
      (engine grammars themes).Lists language) ↔
    ∀ grammar ∈ grammars, OnlyAsciiCapitals grammar.name.toList ∨
      (engine grammars themes).hasLanguage grammar.listedName ∧
        (engine grammars themes).Lists grammar.name := by
  constructor
  · intro agree grammar member
    exact Or.inr
      ⟨(agree _).2 (lists_listedName member), (agree _).1 (hasLanguage_name member)⟩
  · intro names language
    constructor
    · intro known
      rcases lists_of_hasLanguage known with lists | ⟨grammar, member, wide, same⟩
      · exact lists
      · exact (lists_congr same).1 ((names grammar member).resolve_left wide).2
    · rintro ⟨listed, isListed, same⟩
      rw [← hasLanguage_congr same]
      rcases hasLanguage_of_mem isListed with known | ⟨grammar, member, wide, rfl⟩
      · exact known
      · exact ((names grammar member).resolve_left wide).1

end Grammars

namespace Highlighter

open Highlighting

theorem dedup_cons (name : String) (rest : List String) :
    dedup (name :: rest) =
      if (dedup rest).head? = some name then dedup rest else name :: dedup rest := by
  rw [dedup]
  cases dedup rest with
  | nil => rfl
  | cons next more =>
      refine if_congr ?_ rfl rfl
      rw [List.head?_cons, Option.some.injEq, eq_comm]

theorem mem_dedup {name : String} {names : List String} : name ∈ dedup names ↔ name ∈ names := by
  induction names with
  | nil => rfl
  | cons first rest inductionHypothesis =>
      rw [dedup_cons, List.mem_cons, ← inductionHypothesis]
      split
      · rename_i isHead
        have member : first ∈ dedup rest := List.mem_of_mem_head? isHead
        exact (or_iff_right_of_imp fun same => same ▸ member).symm
      · exact List.mem_cons

/-- In ascending order all equal names are neighbours. -/
theorem pairwise_dedup {names : List String} (sorted : names.Pairwise (· ≤ ·)) :
    (dedup names).Pairwise (· < ·) := by
  induction names with
  | nil => exact List.Pairwise.nil
  | cons first rest inductionHypothesis =>
      obtain ⟨least, sortedRest⟩ := List.pairwise_cons.1 sorted
      have ascending := inductionHypothesis sortedRest
      rw [dedup_cons]
      split
      · exact ascending
      · rename_i notHead
        refine List.pairwise_cons.2 ⟨fun other member => ?_, ascending⟩
        refine lt_of_le_of_ne (least other (mem_dedup.1 member)) ?_
        rintro rfl
        cases split : dedup rest with
        | nil =>
            rw [split] at member
            contradiction
        | cons next more =>
            rw [split] at member notHead ascending
            have different : first ≠ next := fun same => notHead (congrArg some same.symm)
            have later := (List.mem_cons.1 member).resolve_left different
            have nextMember : next ∈ rest := mem_dedup.1 (split ▸ List.mem_cons_self)
            exact absurd ((List.pairwise_cons.1 ascending).1 first later)
              (not_lt_of_ge (least next nextMember))

/-- The languages that are shown are those of the engine, in ascending order. -/
theorem outcome_languages {factory : Factory} {cache : Cache} {engine : Engine}
    (inUse : cache.engineInUse factory = .ok engine) :
    ∃ names, (outcome (languages factory) cache).1 = .ok names ∧ names.Pairwise (· < ·) ∧
      ∀ name, name ∈ names ↔ name ∈ engine.languages := by
  obtain ⟨attempt, later, acquired, _⟩ := Cache.acquire_of_inUse inUse
  refine ⟨dedup (engine.languages.mergeSort fun a b => a ≤ b), ?_, ?_, ?_⟩
  · rw [languages, outcome_bind, outcome_built, acquired]
    rfl
  · exact pairwise_dedup (List.pairwise_mergeSort' (· ≤ ·) _)
  · intro name
    rw [mem_dedup, List.mem_mergeSort]

end Highlighter

namespace Grammars

/-- Names of grammars are listed in lower case and looked up as they are, up to the case of `a` to
`z`. So list and lookup differ only in names with other capitals than `A` to `Z`, and agree exactly
if the lower case of each such name is known and the name itself is listed for another reason. The
languages that are shown are those of the list, and no known one fails for want of a grammar. -/
theorem lists_languages_up_to_wide_capitals (grammars : List Grammar) (themes : ThemeSet) :
    ((∀ language, (engine grammars themes).hasLanguage language ↔
        (engine grammars themes).Lists language) ↔
      ∀ grammar ∈ grammars, OnlyAsciiCapitals grammar.name.toList ∨
        (engine grammars themes).hasLanguage grammar.listedName ∧
          (engine grammars themes).Lists grammar.name) ∧
    (∀ language, (engine grammars themes).hasLanguage language →
      (engine grammars themes).Lists language ∨ ∃ grammar ∈ grammars,
        ¬ OnlyAsciiCapitals grammar.name.toList ∧ sameIgnoringAsciiCase grammar.name language) ∧
    (∀ listed ∈ (engine grammars themes).languages,
      (engine grammars themes).hasLanguage listed ∨ ∃ grammar ∈ grammars,
        ¬ OnlyAsciiCapitals grammar.name.toList ∧ listed = grammar.listedName) ∧
    (∀ (factory : Factory) (cache : Cache),
      cache.engineInUse factory = .ok (engine grammars themes) →
        ∃ names, ((Highlighter.languages factory).run cache).value.1 = .ok names ∧
          names.Pairwise (· < ·) ∧
          ∀ name, name ∈ names ↔ name ∈ (engine grammars themes).languages) ∧
    ∀ text language theme, (engine grammars themes).tokenize text language theme =
        .error (.tokenize language .noGrammar) ↔
      (engine grammars themes).hasLanguage language = false := by
  refine ⟨agree_iff, fun language => lists_of_hasLanguage, fun listed => hasLanguage_of_mem,
    fun factory cache inUse => Highlighter.outcome_languages inUse, ?_⟩
  intro text language theme
  refine Grammar.tokenize_eq_noGrammar_iff.trans ?_
  exact Option.isNone_iff_eq_none.symm.trans Option.isSome_eq_false_iff.symm

/-- A grammar with an accented letter for its name. -/
def accented (letter : Char) : Grammar where
  name := letter.toString
  extensions := ["ec"]
  scope := ⟨["source", "ec"]⟩
  contexts := []

theorem lists_languages_up_to_wide_capitals_of_small_letter :
    (engine [accented 'é'] []).Lists "EC" ∧ (engine [accented 'é'] []).hasLanguage "EC" ∧
      ∃ names, ((Highlighter.languages (factory [accented 'é'] [])).run
        { configuration := ⟨[]⟩ }).value.1 = .ok names ∧ "é" ∈ names := by
  have facts := lists_languages_up_to_wide_capitals [accented 'é'] []
  have small : OnlyAsciiCapitals (accented 'é').name.toList := by decide +kernel
  have agree := facts.1.2 (List.forall_mem_singleton.2 (Or.inl small))
  have lists : (engine [accented 'é'] []).Lists "EC" := by decide +kernel
  have shown := facts.2.2.2.1 (factory [accented 'é'] []) { configuration := ⟨[]⟩ } rfl
  obtain ⟨names, isShown, _, same⟩ := shown
  exact ⟨lists, (agree "EC").2 lists, names, isShown, (same "é").2 (by decide +kernel)⟩

theorem accented_capital_is_listed_and_not_known :
    "é" ∈ (engine [accented 'É'] []).languages ∧
      (engine [accented 'É'] []).hasLanguage "é" = false ∧
      (engine [accented 'É'] []).hasLanguage "É" = true ∧
      ¬ (engine [accented 'É'] []).Lists "É" := by
  decide +kernel

end Grammars

end Listings
