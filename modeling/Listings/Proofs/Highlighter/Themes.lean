/-
This file shows that each root of a highlighted text is made of its own theme and of no other.
-/

import Listings.Engine.Keyword
import Listings.Proofs.Highlighter.Failures
import Listings.Proofs.Layout.Roots
import Listings.Proofs.Layout.SingleLine

namespace Listings

open Highlighter Layout
open Markup (Element)

/-- What an engine makes of a text in one theme. -/
inductive Engine.IsRoot (engine : Engine) (text : String) (language : Option String)
    (directive : Directive) (theme : String) : Element → Prop
  | whole {palette : Palette} (unread : ∀ name, ¬ engine.Reads language name)
      (found : engine.palette theme = .ok palette) :
      engine.IsRoot text language directive theme (plainRoot text directive palette)
  | cut {name : String} {block : TokenBlock} (reads : engine.Reads language name)
      (found : engine.palette theme = .ok block.palette)
      (tokenizes : engine.tokenize text name theme = .ok block.lines) :
      engine.IsRoot text language directive theme (unedited directive block)

variable {text : String} {language : Option String} {directive : Directive}

namespace BuiltEngine

variable {built : BuiltEngine}

/-- Palettes and lines are collected one after the other and belong to the same themes. -/
theorem exists_tokenBlocks_iff {name : String} {blocks : List TokenBlock} :
    (∃ palettes, built.palettes = .ok palettes ∧
      tokenBlocks built text name palettes = .ok blocks) ↔
    List.Forall₂ (fun theme block => built.engine.palette theme = .ok block.palette ∧
      built.engine.tokenize text name theme = .ok block.lines)
      built.configuration.themes blocks := by
  have together : ∀ (theme : String) (block : TokenBlock),
      (∃ palette lines, built.engine.palette theme = .ok palette ∧
        built.engine.tokenize text name theme = .ok lines ∧ TokenBlock.mk palette lines = block) ↔
      built.engine.palette theme = .ok block.palette ∧
        built.engine.tokenize text name theme = .ok block.lines := by
    intro theme block
    constructor
    · rintro ⟨palette, lines, found, tokenizes, rfl⟩
      exact ⟨found, tokenizes⟩
    · rintro ⟨found, tokenizes⟩
      exact ⟨block.palette, block.lines, found, tokenizes, rfl⟩
  refine exists_mapM_zip_eq_ok_iff.trans ?_
  simp only [together]

variable {σ : Type} {state : σ} {roots : List Element}

/-- One pass over the themes collects what another one lays out. -/
theorem exists_layOut_iff :
    (∃ tokenized, built.tokenized text language = .ok tokenized ∧
      (layOut text directive [] tokenized state).1 = roots) ↔
    List.Forall₂ (built.engine.IsRoot text language directive)
      built.configuration.themes roots := by
  -- Whether the language is known is the same for every theme, so there are roots of one kind only.
  by_cases readsSome : ∃ name, built.engine.Reads language name
  · obtain ⟨name, reads⟩ := readsSome
    have isRoot : (fun theme root => ∃ block : TokenBlock,
        (built.engine.palette theme = .ok block.palette ∧
          built.engine.tokenize text name theme = .ok block.lines) ∧
        unedited directive block = root) =
          built.engine.IsRoot text language directive := by
      funext theme root
      refine propext ⟨?_, ?_⟩
      · rintro ⟨block, ⟨found, tokenizes⟩, rfl⟩
        exact .cut reads found tokenizes
      · rintro (⟨unread, _⟩ | @⟨other, block, readsOther, found, tokenizes⟩)
        · exact absurd reads (unread name)
        · rw [← reads.unique readsOther] at tokenizes
          exact ⟨block, ⟨found, tokenizes⟩, rfl⟩
    rw [← isRoot, ← exists_forall₂_map_iff, tokenized_of_reads reads]
    simp only [bind_eq_ok_iff, map_eq_ok_iff, ← exists_tokenBlocks_iff]
    constructor
    · rintro ⟨_, ⟨palettes, found, blocks, cut, rfl⟩, laidOut⟩
      rw [layOut, format_without_makers] at laidOut
      exact ⟨blocks, ⟨palettes, found, cut⟩, laidOut⟩
    · rintro ⟨blocks, ⟨palettes, found, cut⟩, rfl⟩
      exact ⟨.blocks blocks, ⟨palettes, found, blocks, cut, rfl⟩,
        congrArg Prod.fst (format_without_makers directive blocks state)⟩
  · have unread : ∀ name, ¬ built.engine.Reads language name := not_exists.1 readsSome
    have isRoot : (fun theme root => ∃ palette, built.engine.palette theme = .ok palette ∧
        plainRoot text directive palette = root) =
          built.engine.IsRoot text language directive := by
      funext theme root
      refine propext ⟨?_, ?_⟩
      · rintro ⟨palette, found, rfl⟩
        exact .whole unread found
      · rintro (⟨_, found⟩ | ⟨reads, _, _⟩)
        · exact ⟨_, found, rfl⟩
        · exact absurd reads (unread _)
    rw [← isRoot, ← exists_forall₂_map_iff, tokenized_of_unread unread]
    simp only [map_eq_ok_iff, palettes, Engine.palettes, mapM_eq_ok_iff]
    constructor
    · rintro ⟨_, ⟨palettes, found, rfl⟩, laidOut⟩
      exact ⟨palettes, found, laidOut⟩
    · rintro ⟨palettes, found, rfl⟩
      exact ⟨.whole palettes, ⟨palettes, found, rfl⟩, rfl⟩

end BuiltEngine

namespace Highlighter

open Highlighting

variable {σ : Type} {state : σ} {roots : List Element} {factory : Factory} {cache : Cache}

/-- Without edits highlighting gives the roots that the engine in use makes of the themes. -/
theorem highlight_eq_ok_iff {engine : Engine} (inUse : cache.engineInUse factory = .ok engine) :
    ((highlight factory text language directive []).run state cache).value.1 = .ok roots ↔
      List.Forall₂ (engine.IsRoot text language directive) cache.configuration.themes roots := by
  obtain ⟨built, later, rfl, configured, _, runs⟩ := run_highlight_of_inUse text language inUse
  rw [runs, afterCut_fst, map_eq_ok_iff, ← configured]
  exact BuiltEngine.exists_layOut_iff

/-- A highlighting without edits that succeeds makes of each theme its root. -/
theorem forall₂_of_highlight_ok
    (succeeds : ((highlight factory text language directive []).run state cache).value.1 =
      .ok roots) :
    ∃ engine, cache.engineInUse factory = .ok engine ∧
      List.Forall₂ (engine.IsRoot text language directive) cache.configuration.themes roots := by
  cases used : cache.engineInUse factory with
  | ok engine => exact ⟨engine, rfl, (highlight_eq_ok_iff used).1 succeeds⟩
  | error cause =>
      have notMade := Cache.engineInUse_eq_error_iff.1 used
      obtain ⟨later, _, runs⟩ := run_highlight_of_notMade text language notMade
      rw [runs] at succeeds
      contradiction

end Highlighter

namespace Layout

variable {block : TokenBlock}

/-- A text that stays whole takes its colors from the palette. -/
theorem find?_plainRoot (text : String) (directive : Directive) (palette : Palette) :
    ∃ code, (plainRoot text directive palette).find? "code" = some code ∧
      code.attribute? "style" = some (.text ("color: " ++ palette.foreground)) ∧
      code.children = [.text text] :=
  ⟨wholeCode text palette, rfl, rfl, rfl⟩

theorem showsIn_unedited_inline {index : Nat} (isInline : directive.inline = some index)
    (block : TokenBlock) :
    (unedited directive block).tag = "div" ∧ ∃ line : Element,
      (unedited directive block).children = [line.toNode] ∧
        ShowsIn block.palette (block.lines[index]?.getD []) line := by
  rw [unedited_inline isInline]
  exact ⟨tag_settled, _, children_settled_inline index block, showsIn_line ..⟩

/-- Each line of a block that is asked for is shown in the palette of the block. -/
theorem showsIn_unedited_block (isBlock : directive.inline = none) (block : TokenBlock) :
    (unedited directive block).tag = "pre" ∧ ∃ code,
      (unedited directive block).find? "code" = some code ∧
        List.Forall₂ (fun index child => ∃ fragments line, block.lines[index]? = some fragments ∧
            child = Element.toNode line ∧ ShowsIn block.palette fragments line)
          (directive.askedIndices block) code.children := by
  refine ⟨tag_unedited isBlock block, settledCode directive block, find?_unedited isBlock, ?_⟩
  rw [children_settledCode, List.forall₂_map_right_iff, List.forall₂_same]
  intro index asked
  have within : index < block.lines.length := List.mem_range.1 (List.mem_filter.1 asked).1
  have there := List.getElem?_eq_getElem within
  refine ⟨_, lineAt directive block index, there, rfl, ?_⟩
  rw [lineAt, there, Option.getD_some]
  exact showsIn_line ..

end Layout

namespace Engine.IsRoot

variable {engine : Engine} {theme : String} {root : Element}

theorem wellNamed (isRoot : engine.IsRoot text language directive theme root)
    (named : directive.attributes.wellNamed = true) : root.wellNamed = true := by
  cases isRoot with
  | @whole palette unread found => exact wellNamed_plainRoot named text palette
  | @cut name block reads found tokenizes => exact wellNamed_unedited named block

/-- The palette of the theme decides how the root is shown. -/
theorem look (isRoot : engine.IsRoot text language directive theme root)
    (keepsLook : directive.KeepsLook) :
    ∃ palette, engine.palette theme = .ok palette ∧
      root.attribute? "class" = some (.list ["shiki", palette.name]) ∧
      (root.tag = "pre" → root.attribute? "style" =
        some (.text ("background-color: " ++ palette.background))) := by
  cases isRoot with
  | @whole palette unread found =>
      refine ⟨palette, found, ?_, fun _ => ?_⟩
      · exact attribute?_blockRoot_eq_ite keepsLook palette "class"
      · exact attribute?_blockRoot_eq_ite keepsLook palette "style"
  | @cut name block reads found tokenizes =>
      refine ⟨block.palette, found, ?_⟩
      cases shown : directive.inline with
      | none =>
          rw [attribute?_unedited_of_ne shown block (by decide),
            attribute?_unedited_of_ne shown block (by decide)]
          exact ⟨attribute?_blockRoot_eq_ite keepsLook block.palette "class",
            fun _ => attribute?_blockRoot_eq_ite keepsLook block.palette "style"⟩
      | some index =>
          rw [unedited_inline shown]
          refine ⟨attribute?_settled_inline index block "class", fun isPre => ?_⟩
          rw [tag_settled] at isPre
          exact absurd isPre (by decide : "div" ≠ "pre")

/-- Without a language the text stays whole. -/
theorem shows_text (isRoot : engine.IsRoot text language directive theme root)
    {palette : Palette} (found : engine.palette theme = .ok palette)
    (unread : ∀ name, ¬ engine.Reads language name) :
    root.tag = "pre" ∧ ∃ code, root.find? "code" = some code ∧
      code.attribute? "style" = some (.text ("color: " ++ palette.foreground)) ∧
      code.children = [.text text] := by
  cases isRoot with
  | @whole other _ foundOther =>
      rw [found] at foundOther
      cases foundOther
      exact ⟨rfl, find?_plainRoot text directive palette⟩
  | cut reads _ _ => exact absurd reads (unread _)

/-- With a language the root shows what the engine makes of the text for this theme. -/
theorem shows_lines (isRoot : engine.IsRoot text language directive theme root)
    {palette : Palette} (found : engine.palette theme = .ok palette) {name : String}
    (reads : engine.Reads language name) :
    ∃ lines, engine.tokenize text name theme = .ok lines ∧
      (∀ index, directive.inline = some index → root.tag = "div" ∧ ∃ line : Element,
        root.children = [line.toNode] ∧ ShowsIn palette (lines[index]?.getD []) line) ∧
      (directive.inline = none → root.tag = "pre" ∧ ∃ code, root.find? "code" = some code ∧
        List.Forall₂ (fun index child => ∃ fragments line, lines[index]? = some fragments ∧
            child = Element.toNode line ∧ ShowsIn palette fragments line)
          (directive.askedIndices ⟨palette, lines⟩) code.children) := by
  cases isRoot with
  | whole unread _ => exact absurd reads (unread name)
  | @cut other block readsOther foundOther tokenizes =>
      rw [← reads.unique readsOther] at tokenizes
      rw [found] at foundOther
      cases foundOther
      exact ⟨block.lines, tokenizes, fun index isInline => showsIn_unedited_inline isInline block,
        fun isBlock => showsIn_unedited_block isBlock block⟩

end Engine.IsRoot

theorem Keyword.name_of_palette {name : String} {palette : Palette}
    (found : Keyword.palette name = .ok palette) : palette.name = name := by
  unfold Keyword.palette at found
  split at found
  · rename_i isFound
    cases found
    have same := List.find?_some isFound
    rwa [beq_iff_eq] at same
  · contradiction

namespace Highlighter

open Highlighting

/-- Highlighting makes one root of each configured theme, in their order and out of nothing but that
theme: its name and colors, and the lines that the engine cuts the text into for it, as far as the
directive shows them. So each root is what highlighting makes of its theme alone. -/
theorem each_root_shows_its_own_theme {σ : Type} (factory : Factory) (cache : Cache) (text : String)
    (language : Option String) (directive : Directive) (keepsLook : directive.KeepsLook)
    (named : ∀ engine, cache.engineInUse factory = .ok engine → ∀ name palette,
      engine.palette name = .ok palette → palette.name = name)
    (state : σ) (roots : List Element)
    (succeeds : ((highlight factory text language directive []).run state cache).value.1 =
      .ok roots) :
    ∃ engine, cache.engineInUse factory = .ok engine ∧
      roots.length = cache.configuration.themes.length ∧
      ∀ (index : Nat) (theme : String), cache.configuration.themes[index]? = some theme →
        ∃ root palette, roots[index]? = some root ∧ engine.palette theme = .ok palette ∧
          root.attribute? "class" = some (.list ["shiki", theme]) ∧
          (root.tag = "pre" → root.attribute? "style" =
            some (.text ("background-color: " ++ palette.background))) ∧
          ((∀ name, ¬ engine.Reads language name) →
            root.tag = "pre" ∧ ∃ code, root.find? "code" = some code ∧
              code.attribute? "style" = some (.text ("color: " ++ palette.foreground)) ∧
              code.children = [.text text]) ∧
          (∀ name, engine.Reads language name →
            ∃ lines, engine.tokenize text name theme = .ok lines ∧
              (∀ shown, directive.inline = some shown → root.tag = "div" ∧ ∃ line : Element,
                root.children = [line.toNode] ∧ ShowsIn palette (lines[shown]?.getD []) line) ∧
              (directive.inline = none → root.tag = "pre" ∧ ∃ code,
                root.find? "code" = some code ∧
                List.Forall₂ (fun number child => ∃ fragments line,
                    lines[number]? = some fragments ∧ child = Element.toNode line ∧
                      ShowsIn palette fragments line)
                  (directive.askedIndices ⟨palette, lines⟩) code.children)) ∧
          ∀ (maker : Factory) (other : Cache), other.engineInUse maker = .ok engine →
            other.configuration = ⟨[theme]⟩ →
              ((highlight maker text language directive []).run state other).value.1 =
                .ok [root] := by
  obtain ⟨engine, inUse, pairs⟩ := forall₂_of_highlight_ok succeeds
  refine ⟨engine, inUse, pairs.length_eq.symm, ?_⟩
  intro index theme isTheme
  obtain ⟨root, isThere, isRoot⟩ := exists_getElem?_of_forall₂ pairs isTheme
  obtain ⟨palette, found, classes, style⟩ := isRoot.look keepsLook
  rw [named engine inUse theme palette found] at classes
  refine ⟨root, palette, isThere, found, classes, style, isRoot.shows_text found,
    fun name reads => isRoot.shows_lines found reads, ?_⟩
  intro maker other otherInUse alone
  -- Being a root of a theme does not depend on the themes beside it.
  refine (highlight_eq_ok_iff otherInUse).2 ?_
  rw [alone]
  exact List.Forall₂.cons isRoot List.Forall₂.nil

theorem each_root_shows_its_own_theme_where_one_is_repeated :
    let cache : Cache := { configuration := ⟨["dark", "light", "dark"]⟩ }
    ∃ roots, ((highlight Keyword.factory "let x" (some "rust") {} []).run () cache).value.1 =
        .ok roots ∧
      roots.length = 3 ∧ ∃ root, roots[1]? = some root ∧
        root.attribute? "class" = some (.list ["shiki", "light"]) ∧
        ((highlight Keyword.factory "let x" (some "rust") {} []).run ()
          { configuration := ⟨["light"]⟩ }).value.1 = .ok [root] := by
  intro cache
  obtain ⟨roots, succeeds⟩ : ∃ roots,
      ((highlight Keyword.factory "let x" (some "rust") {} []).run () cache).value.1 =
        .ok roots := ⟨_, rfl⟩
  have inUse : cache.engineInUse Keyword.factory = .ok Keyword.engine := rfl
  have named : ∀ engine, cache.engineInUse Keyword.factory = .ok engine → ∀ name palette,
      engine.palette name = .ok palette → palette.name = name := by
    intro engine isInUse name palette found
    rw [inUse] at isInUse
    cases isInUse
    exact Keyword.name_of_palette found
  obtain ⟨engine, isInUse, length, each⟩ := each_root_shows_its_own_theme Keyword.factory cache
    "let x" (some "rust") {} ⟨rfl, rfl⟩ named () roots succeeds
  obtain ⟨root, palette, isThere, _, classes, _, _, _, alone⟩ := each 1 "light" rfl
  refine ⟨roots, succeeds, length, root, isThere, classes, ?_⟩
  exact alone Keyword.factory _ isInUse rfl

/-- A directive may set the classes of a root, which are those of no theme then, and it may hide
lines that the engine has cut. -/
theorem directive_sets_classes_and_hides_lines :
    let classy : Directive := { attributes := Markup.Attributes.insert "class" (.text "mine") ∅ }
    let withoutFirst : Directive := { hidden := LineSet.insert 0 ∅ }
    let roots (directive : Directive) :=
      ((highlight Keyword.factory "let x\nx" (some "rust") directive []).run ()
        { configuration := ⟨["light"]⟩ }).value.1
    (roots classy).map (List.map (·.attribute? "class")) = .ok [some (.text "mine")] ∧
    (∃ first second, Keyword.engine.tokenize "let x\nx" "rust" "light" = .ok [first, second] ∧
      Line.text first = "let x".toList) ∧
    (roots withoutFirst).map (List.map (·.textContent)) = .ok ["x\n"] := by
  exact ⟨rfl, ⟨_, _, rfl, rfl⟩, by decide +kernel⟩

end Highlighter

end Listings
