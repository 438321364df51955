/-
This file shows that highlighting loses, repeats and moves nothing of the source.
-/

import Listings.Proofs.Directive.Names
import Listings.Proofs.Engine.Lossless
import Listings.Proofs.FirstError
import Listings.Proofs.Highlighter.Themes
import Listings.Proofs.Layout.Text
import Listings.Proofs.LineSet.Coverage
import Listings.Proofs.Markup.VisibleText

namespace Listings

open Markup (Element visibleText)

/-- Some tags name no language, and an engine knows only some of the others. -/
def Engine.recognizes (engine : Engine) : Option String → Bool
  | none => false
  | some name => name != "" && name != "unknown" && engine.hasLanguage name

namespace Directive

/-- The lines that the directive asks for, in the order of their indices. -/
def shownLines (directive : Directive) (lines : List (List Char)) : String :=
  match directive.inline with
  | some index => String.ofList (lines[index]?.getD [] ++ ['\n'])
  | none => String.ofList (((List.range lines.length).filter directive.isVisible).flatMap
      fun index => lines[index]?.getD [] ++ ['\n'])

end Directive

/-- The whole text where its language is not recognized, else the lines asked for. -/
def Engine.shownText (engine : Engine) (text : String) (language : Option String)
    (directive : Directive) : String :=
  if engine.recognizes language then directive.shownLines (Text.lines text.toList) else text

namespace Layout

theorem text_getElem? (lines : List Line) (index : Nat) :
    Line.text (lines[index]?.getD []) = (lines.map Line.text)[index]?.getD [] := by
  rw [List.getElem?_map]
  cases lines[index]? <;> rfl

/-- Lines that are left out do not move the indices of the others. -/
theorem text_visibleLines (directive : Directive) (lines : List Line) :
    (visibleLines directive lines).flatMap (fun entry => entry.1.text ++ ['\n']) =
      ((List.range lines.length).filter directive.isVisible).flatMap
        fun index => (lines.map Line.text)[index]?.getD [] ++ ['\n'] := by
  rw [visibleLines_eq, List.flatMap_map]
  simp only [text_getElem?]

/-- A root shows the lines that the directive asks for. -/
theorem textContent_root (directive : Directive) (tokens : TokenBlock) :
    (root directive tokens).textContent =
      directive.shownLines (tokens.lines.map Line.text) := by
  unfold root Directive.shownLines
  cases directive.inline with
  | some index => rw [textContent_inline, text_getElem?]
  | none =>
      dsimp only
      rw [textContent_block, text_visibleLines, List.length_map]

end Layout

namespace Highlighter

/-- A language is asked of the engine exactly where it can be recognized. -/
theorem wantedLanguage?_cases (engine : Engine) (language : Option String) :
    (wantedLanguage? language = none ∧ engine.recognizes language = false) ∨
      ∃ name, wantedLanguage? language = some name ∧
        engine.recognizes language = engine.hasLanguage name := by
  cases language with
  | none => exact Or.inl ⟨rfl, rfl⟩
  | some name =>
      have nonempty : (name != "") = !name.isEmpty := by
        rw [Bool.eq_iff_iff, bne_iff_ne, Bool.not_eq_true', ← Bool.not_eq_true,
          String.isEmpty_iff]
      rw [wantedLanguage?, Option.filter_some, Engine.recognizes, nonempty, unknownLanguage]
      split
      · rename_i wanted
        rw [wanted, Bool.true_and]
        exact Or.inr ⟨name, rfl, rfl⟩
      · rename_i unwanted
        rw [Bool.not_eq_true] at unwanted
        rw [unwanted]
        exact Or.inl ⟨rfl, rfl⟩

theorem tokenBlocks_ok {built : BuiltEngine} {text name : String} {palettes : List Palette}
    {blocks : List TokenBlock} (cut : tokenBlocks built text name palettes = .ok blocks) :
    ∀ tokens ∈ blocks, ∃ theme, built.engine.tokenize text name theme = .ok tokens.lines := by
  intro tokens member
  obtain ⟨entry, _, made⟩ := mem_of_mapM_ok cut tokens member
  cases lines : built.engine.tokenize text name entry.1 with
  | error error =>
      rw [lines] at made
      contradiction
  | ok found =>
      rw [lines] at made
      cases made
      exact ⟨entry.1, lines⟩

/-- The engine cuts the text exactly where it recognizes the language. -/
theorem tokenized_ok {built : BuiltEngine} {text : String} {language : Option String}
    {tokenized : Tokenized} (cut : built.tokenized text language = .ok tokenized) :
    (built.engine.recognizes language = false ∧ ∃ palettes, tokenized = .whole palettes) ∨
      (built.engine.recognizes language = true ∧ ∃ blocks, tokenized = .blocks blocks ∧
        ∀ tokens ∈ blocks, ∃ name theme,
          built.engine.tokenize text name theme = .ok tokens.lines) := by
  unfold BuiltEngine.tokenized at cut
  cases found : built.palettes with
  | error error =>
      rw [found] at cut
      contradiction
  | ok palettes =>
      rw [found] at cut
      rcases wantedLanguage?_cases built.engine language with
        ⟨unwanted, isPlain⟩ | ⟨name, wanted, same⟩
      · rw [unwanted] at cut
        cases cut
        exact Or.inl ⟨isPlain, palettes, rfl⟩
      · rw [wanted] at cut
        change (if built.engine.hasLanguage name then _ else _) = _ at cut
        split at cut
        · rename_i known
          cases made : tokenBlocks built text name palettes with
          | error error =>
              rw [made] at cut
              contradiction
          | ok blocks =>
              rw [made] at cut
              cases cut
              exact Or.inr ⟨same.trans known, blocks, rfl,
                fun tokens member => ⟨name, tokenBlocks_ok made tokens member⟩⟩
        · rename_i notKnown
          cases cut
          exact Or.inl ⟨same.trans (Bool.not_eq_true _ ▸ notKnown), palettes, rfl⟩

variable {σ : Type}

/-- Each root shows the part of the source that the directive asks for. -/
theorem layOut_shows {built : BuiltEngine} (lossless : built.engine.Lossless) {text : String}
    {language : Option String} {tokenized : Tokenized}
    (cut : built.tokenized text language = .ok tokenized) {directive : Directive}
    (named : directive.attributes.wellNamed = true) (state : σ) :
    ∀ root ∈ (layOut text directive [] tokenized state).1,
      visibleText root.html = built.engine.shownText text language directive := by
  intro root member
  unfold Engine.shownText
  rcases tokenized_ok cut with ⟨isPlain, palettes, rfl⟩ | ⟨isKnown, blocks, rfl, made⟩
  · obtain ⟨palette, _, rfl⟩ := List.mem_map.1 member
    rw [Element.visibleText_html (Layout.wellNamed_plainRoot named text palette),
      Layout.textContent_plainRoot, isPlain]
    rfl
  · rw [layOut, Layout.format_without_makers] at member
    obtain ⟨tokens, inBlocks, rfl⟩ := List.mem_map.1 member
    obtain ⟨name, theme, tokenizes⟩ := made tokens inBlocks
    rw [Element.visibleText_html (Layout.wellNamed_unedited named tokens),
      Layout.textContent_unedited, Layout.textContent_root, lossless _ _ _ _ tokenizes, isKnown]
    rfl

/-- There is a root for every theme. Without its tags and entities the HTML of a root is the source:
all of it where the language is not recognized, else every visible line in order, or the one line
that stands inline. -/
theorem highlight_shows_source {factory : Factory} (lossless : factory.Makes Engine.Lossless)
    {cache : Cache} (reachable : cache.Reachable factory) {text raw : String}
    {language : Option String} {inline : Option Nat} {state : σ} {roots : List Element}
    (succeeds : ((highlight factory text language (Directive.ofText raw inline) []).run state
      cache).value.1 = .ok roots) :
    roots.length = cache.configuration.themes.length ∧
    ∃ built, (cache.acquire factory).value.1 = .ok built ∧
      ∀ root ∈ roots, visibleText root.html =
        built.engine.shownText text language (Directive.ofText raw inline) := by
  obtain ⟨_, _, pairs⟩ := forall₂_of_highlight_ok succeeds
  obtain ⟨built, tokenized, acquired, cut, laidOut⟩ := exists_layOut_of_highlight_ok succeeds
  have shows := layOut_shows (reachable.acquired lossless acquired) cut
    (Directive.hasDataNames_ofText raw inline).wellNamed state
  rw [laidOut] at shows
  exact ⟨pairs.length_eq.symm, built, acquired, shows⟩

theorem highlight_shows_source_around_hidden :
    let text := "let a\nx > 1\nfn <"
    let cache : Cache := { configuration := ⟨["light", "dark"]⟩ }
    let Shows (language : Option String) (raw : String) (inline : Option Nat) (shown : String) :=
      ∃ roots, ((highlight Keyword.factory text language (Directive.ofText raw inline) []).run ()
          cache).value.1 = .ok roots ∧
        roots.length = 2 ∧ ∀ root ∈ roots, visibleText root.html = shown
    Shows (some "rust") "hide=1 data-x='<a>'" none "let a\nfn <\n" ∧
    Shows (some "rust") "hide=1" (some 1) "x > 1\n" ∧
    Shows (some "rust") "hide=1" (some 3) "\n" ∧
    Shows (some "cobol") "hide=1 data-x='<a>'" none text ∧ Shows none "" (some 1) text := by
  intro text cache Shows
  have shows : ∀ language raw inline shown,
      ((highlight Keyword.factory text language (Directive.ofText raw inline) []).run ()
        cache).value.1.isOk = true →
      Keyword.engine.shownText text language (Directive.ofText raw inline) = shown →
      Shows language raw inline shown := by
    intro language raw inline shown isOk isShown
    cases succeeds : ((highlight Keyword.factory text language (Directive.ofText raw inline) []).run
        () cache).value.1 with
    | error error =>
        rw [succeeds] at isOk
        contradiction
    | ok roots =>
        obtain ⟨two, built, acquired, each⟩ := highlight_shows_source
          Keyword.factory_makes_lossless (Cache.Reachable.start ⟨["light", "dark"]⟩) succeeds
        cases acquired
        refine ⟨roots, succeeds, two, ?_⟩
        intro root member
        rw [each root member, isShown]
  refine ⟨shows _ _ _ _ ?_ ?_, shows _ _ _ _ ?_ ?_, shows _ _ _ _ ?_ ?_, shows _ _ _ _ ?_ ?_,
    shows _ _ _ _ ?_ ?_⟩ <;> decide +kernel

end Highlighter

end Listings
