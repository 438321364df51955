/-
This file says what a document with blocks of code becomes, and where rendering it stops if one of
the blocks cannot be highlighted.
-/

import Listings.Engine.Keyword
import Listings.Proofs.Cache.History
import Listings.Proofs.Highlighter.Outcome
import Listings.Proofs.Markdown.Documents
import Listings.Proofs.Text.Pieces

namespace Listings

/-- The cache after so many calls for the engine. -/
def Cache.acquired (factory : Factory) (cache : Cache) (times : Nat) : Cache :=
  cache.after factory (List.replicate times .acquire)

theorem Cache.acquired_succ (factory : Factory) (cache : Cache) (times : Nat) :
    cache.acquired factory (times + 1) =
      ((cache.acquired factory times).acquire factory).value.2 := by
  rw [acquired, List.replicate_succ', after, List.foldl_append]
  rfl

namespace Markdown

open Highlighting
open Markup (Element)

/-- The parts are shown in order, and every block is highlighted with the cache that the blocks
before it left. -/
inductive Shows (factory : Factory) :
    Cache → List Part → List Event → Cache → List Notice → Prop where
  | nil {cache : Cache} : Shows factory cache [] [] cache []
  | code {cache next last : Cache} {block : CodeBlock} {roots : List Element} {rest : List Part}
      {output : List Event} {notices more : List Notice}
      (highlights : (block.highlight factory).run cache = ⟨(.ok roots, next), notices⟩)
      (others : Shows factory next rest output last more) :
      Shows factory cache (.code block :: rest) (.markup (Markup.render roots) :: output) last
        (notices ++ block.notice roots :: more)
  | other {cache last : Cache} {event : Event} {isOther : event.isCodeBound = false}
      {rest : List Part} {output : List Event} {notices : List Notice}
      (others : Shows factory cache rest output last notices) :
      Shows factory cache (.other event isOther :: rest) (event :: output) last notices

/-- A block fails after all before it were shown; what stands after it does not matter. -/
inductive FailsFirst (factory : Factory) (cache : Cache) :
    List Part → HighlightError → Cache → List Notice → Prop where
  | code {before after : List Part} {output : List Event} {found last : Cache}
      {notices more : List Notice} {block : CodeBlock} {error : HighlightError}
      (shows : Shows factory cache before output found notices)
      (fails : (block.highlight factory).run found = ⟨(.error error, last), more⟩) :
      FailsFirst factory cache (before ++ .code block :: after) error last (notices ++ more)

variable {factory : Factory} {cache next last : Cache} {parts rest : List Part}
  {output : List Event} {notices more : List Notice} {error : HighlightError}

namespace CodeBlock

variable {block : CodeBlock}

theorem run_shown_of_ok {roots : List Element}
    (highlights : (block.highlight factory).run cache = ⟨(.ok roots, next), notices⟩) :
    (block.shown factory).run cache =
      ⟨(.ok (.markup (Markup.render roots)), next), notices ++ [block.notice roots]⟩ :=
  run_bind_of_ok highlights

theorem run_shown_of_error
    (fails : (block.highlight factory).run cache = ⟨(.error error, next), notices⟩) :
    (block.shown factory).run cache = ⟨(.error error, next), notices⟩ :=
  run_bind_of_error fails

/-- Every block asks for the engine once. -/
theorem cache_highlight (block : CodeBlock) (factory : Factory) (cache : Cache) :
    ((block.highlight factory).run cache).value.2 = (cache.acquire factory).value.2 :=
  Highlighter.cache_highlightAs factory block.source block.language block.directive cache

end CodeBlock

theorem Shows.run (shows : Shows factory cache parts output last notices) :
    (parts.mapM (Part.shown factory)).run cache = ⟨(.ok output, last), notices⟩ := by
  induction shows with
  | nil => rfl
  | code highlights _ inductionHypothesis =>
      have first := CodeBlock.run_shown_of_ok highlights
      rw [List.append_cons]
      exact run_mapM_cons_of_ok first inductionHypothesis
  | @other cache last event isOther rest output notices _ inductionHypothesis =>
      have first : (Part.shown factory (.other event isOther)).run cache =
        ⟨(.ok event, cache), []⟩ := rfl
      exact run_mapM_cons_of_ok first inductionHypothesis

theorem FailsFirst.run (fails : FailsFirst factory cache parts error last notices) :
    (parts.mapM (Part.shown factory)).run cache = ⟨(.error error, last), notices⟩ := by
  cases fails with
  | @code before after output found last notices more block error shows fails =>
      have failing : ((.code block :: after : List Part).mapM (Part.shown factory)).run found =
          ⟨(.error error, last), more⟩ := by
        rw [List.mapM_cons]
        exact run_bind_of_error (CodeBlock.run_shown_of_error fails)
      rw [List.mapM_append, run_bind_of_ok shows.run, run_bind_of_error failing]

/-- Either all parts are shown or one is the first to fail. -/
theorem shows_or_failsFirst (factory : Factory) (parts : List Part) (cache : Cache) :
    (∃ output last notices, Shows factory cache parts output last notices) ∨
      ∃ error last notices, FailsFirst factory cache parts error last notices := by
  -- The cache varies, since every block leaves another one to those after it.
  induction parts generalizing cache with
  | nil => exact Or.inl ⟨[], cache, [], .nil⟩
  | cons part rest inductionHypothesis =>
      cases part with
      | other event isOther =>
          rcases inductionHypothesis cache with ⟨output, last, notices, shows⟩ | failing
          · exact Or.inl ⟨event :: output, last, notices, .other shows⟩
          · obtain ⟨error, last, _, shows, fails⟩ := failing
            exact Or.inr ⟨error, last, _, .code shows.other fails⟩
      | code block =>
          rcases ran : (block.highlight factory).run cache with ⟨⟨error | roots, next⟩, notices⟩
          · exact Or.inr ⟨error, next, _, .code .nil ran⟩
          · rcases inductionHypothesis next with ⟨output, last, more, shows⟩ | failing
            · exact Or.inl ⟨_, last, _, .code ran shows⟩
            · obtain ⟨error, last, _, shows, fails⟩ := failing
              exact Or.inr ⟨error, last, _, .code (.code ran shows) fails⟩

/-- Shows all parts and makes something of their events. -/
def Part.showAll {β : Type} (factory : Factory) (parts : List Part) (make : List Event → β) :
    Highlighting β := do
  let output ← parts.mapM (Part.shown factory)
  pure (make output)

section Run

variable {β : Type} {make : List Event → β}

theorem Shows.run_showAll (shows : Shows factory cache parts output last notices)
    (make : List Event → β) :
    (Part.showAll factory parts make).run cache = ⟨(.ok (make output), last), notices⟩ := by
  rw [Part.showAll, run_bind_of_ok shows.run]
  exact congrArg (Reported.mk _) (List.append_nil notices)

theorem FailsFirst.run_showAll (fails : FailsFirst factory cache parts error last notices)
    (make : List Event → β) :
    (Part.showAll factory parts make).run cache = ⟨(.error error, last), notices⟩ :=
  run_bind_of_error fails.run

theorem run_showAll_eq_ok_iff {made : β} :
    (Part.showAll factory parts make).run cache = ⟨(.ok made, last), notices⟩ ↔
      ∃ output, Shows factory cache parts output last notices ∧ made = make output := by
  constructor
  · intro ran
    rcases shows_or_failsFirst factory parts cache with ⟨output, _, _, shows⟩ | ⟨_, _, _, fails⟩
    · cases ran.symm.trans (shows.run_showAll make)
      exact ⟨output, shows, rfl⟩
    · cases ran.symm.trans (fails.run_showAll make)
  · rintro ⟨output, shows, rfl⟩
    exact shows.run_showAll make

theorem run_showAll_eq_error_iff :
    (Part.showAll factory parts make).run cache = ⟨(.error error, last), notices⟩ ↔
      FailsFirst factory cache parts error last notices := by
  constructor
  · intro ran
    rcases shows_or_failsFirst factory parts cache with ⟨_, _, _, shows⟩ | ⟨_, _, _, fails⟩
    · cases ran.symm.trans (shows.run_showAll make)
    · cases ran.symm.trans (fails.run_showAll make)
      exact fails
  · intro fails
    exact fails.run_showAll make

end Run

theorem Shows.length (shows : Shows factory cache parts output last notices) :
    output.length = parts.length := by
  induction shows with
  | nil => rfl
  | code _ _ inductionHypothesis => exact congrArg Nat.succ inductionHypothesis
  | other _ inductionHypothesis => exact congrArg Nat.succ inductionHypothesis

theorem acquired_of_highlight {block : CodeBlock} {roots : List Element}
    (highlights : (block.highlight factory).run cache = ⟨(.ok roots, next), notices⟩)
    (times : Nat) : cache.acquired factory (times + 1) = next.acquired factory times := by
  have asked := block.cache_highlight factory cache
  rw [highlights] at asked
  change (cache.acquire factory).value.2.acquired factory times = _
  rw [← asked]

/-- The engine is asked for once for every block. -/
theorem Shows.acquired (shows : Shows factory cache parts output last notices) :
    last = cache.acquired factory (parts.countP Part.isCode) := by
  induction shows with
  | nil => rfl
  | code highlights _ inductionHypothesis =>
      rw [inductionHypothesis, List.countP_cons_of_pos rfl, acquired_of_highlight highlights]
  | other _ inductionHypothesis =>
      rw [inductionHypothesis, List.countP_cons_of_neg Bool.false_ne_true]

/-- Every part has one event in its place. -/
theorem Shows.getElem? (shows : Shows factory cache parts output last notices) (place : Nat) :
    (∀ event isOther, parts[place]? = some (.other event isOther) →
      output[place]? = some event) ∧
    ∀ block, parts[place]? = some (.code block) →
      ∃ roots, output[place]? = some (.markup (Markup.render roots)) ∧
        ((block.highlight factory).run
          (cache.acquired factory ((parts.take place).countP Part.isCode))).value.1 =
            .ok roots := by
  induction shows generalizing place with
  | nil => exact ⟨nofun, nofun⟩
  | code highlights _ inductionHypothesis =>
      cases place with
      | zero =>
          refine ⟨nofun, ?_⟩
          intro block found
          cases found
          exact ⟨_, rfl, congrArg (·.value.1) highlights⟩
      | succ place =>
          rw [List.take_succ_cons, List.countP_cons_of_pos rfl, acquired_of_highlight highlights]
          exact inductionHypothesis place
  | other _ inductionHypothesis =>
      cases place with
      | zero =>
          refine ⟨?_, nofun⟩
          intro event isOther found
          cases found
          rfl
      | succ place =>
          rw [List.take_succ_cons, List.countP_cons_of_neg Bool.false_ne_true]
          exact inductionHypothesis place

/-- No block after the one that fails asks for the engine. -/
theorem FailsFirst.acquired (fails : FailsFirst factory cache parts error last notices) :
    ∃ place block, parts[place]? = some (.code block) ∧
      ((block.highlight factory).run
        (cache.acquired factory ((parts.take place).countP Part.isCode))).value =
          (.error error, last) ∧
      last = cache.acquired factory ((parts.take place).countP Part.isCode + 1) := by
  cases fails with
  | @code before after output found last notices more block error shows fails =>
      have earlier : (before ++ .code block :: after).take before.length = before :=
        List.take_left' rfl
      have failed : ((block.highlight factory).run found).value = (.error error, last) :=
        congrArg Reported.value fails
      have asked := block.cache_highlight factory found
      refine ⟨before.length, block, ?_, ?_⟩
      · rw [List.getElem?_append_right (Nat.le_refl _), Nat.sub_self]
        rfl
      · rw [earlier, Cache.acquired_succ, ← shows.acquired]
        rw [failed] at asked
        exact ⟨failed, asked⟩

theorem shows_of_no_code (noCode : parts.countP Part.isCode = 0) :
    Shows factory cache parts (parts.flatMap Part.events) cache [] := by
  induction parts with
  | nil => exact .nil
  | cons part rest inductionHypothesis =>
      cases part with
      | code block =>
          rw [List.countP_cons_of_pos rfl] at noCode
          contradiction
      | other event isOther =>
          rw [List.countP_cons_of_neg Bool.false_ne_true] at noCode
          exact (inductionHypothesis noCode).other

namespace Rendering

variable {extended : Bool} {document : String}

theorem render_eq_showAll
    (divides : Event.ofDocument extended document = parts.flatMap Part.events) :
    render factory extended document = Part.showAll factory parts fun output =>
      ⟨Event.toHtml output, parts.countP Part.isCode⟩ := by
  rw [render, divides, highlightCode_events]
  simp only [bind_assoc, pure_bind]
  rfl

theorem run_eq (factory : Factory) (extended : Bool) (document : String) (cache : Cache) :
    run factory extended document cache =
      let rendered := (render factory extended document).run cache
      ⟨(rendered.value.1.mapError RenderError.mk, rendered.value.2), rendered.notices⟩ := by
  rw [run]
  generalize (render factory extended document).run cache = rendered
  show Reported.mk _ (rendered.notices ++ []) = _
  rw [List.append_nil]
  rfl

theorem run_eq_ok_iff {rendering : Rendering} :
    run factory extended document cache = ⟨(.ok rendering, last), notices⟩ ↔
      (render factory extended document).run cache = ⟨(.ok rendering, last), notices⟩ := by
  rw [run_eq]
  rcases (render factory extended document).run cache with ⟨⟨error | made, later⟩, reported⟩
  · exact iff_of_false nofun nofun
  · constructor
    · intro same
      cases same
      rfl
    · intro same
      cases same
      rfl

/-- The error says that it comes of code. -/
theorem run_eq_error_iff {error : RenderError} :
    run factory extended document cache = ⟨(.error error, last), notices⟩ ↔
      (render factory extended document).run cache = ⟨(.error error.cause, last), notices⟩ := by
  rw [run_eq]
  rcases (render factory extended document).run cache with ⟨⟨cause | made, later⟩, reported⟩
  · constructor
    · intro same
      cases same
      rfl
    · intro same
      cases error
      cases same
      rfl
  · exact iff_of_false nofun nofun

end Rendering

/-- Rendering shows every part of a document in order, with one piece of markup in the place of
every block of code, or fails with the error of the first block that fails. -/
theorem code_is_replaced_in_place (factory : Factory) (cache : Cache) :
    -- The events in which every block of code has an end and holds nothing but text.
    (∀ events : List Event, Event.matched false events = true ↔
      ∃ parts : List Part, events = parts.flatMap Part.events) ∧
    (∀ parts : List Part,
      let events := parts.flatMap Part.events
      let run := (Rendering.highlightCode factory none events).run cache
      let blocksBefore (place : Nat) := (parts.take place).countP Part.isCode
      (∀ output count last notices, run = ⟨(.ok (output, count), last), notices⟩ ↔
        Shows factory cache parts output last notices ∧ count = parts.countP Part.isCode) ∧
      (∀ error last notices, run = ⟨(.error error, last), notices⟩ ↔
        FailsFirst factory cache parts error last notices) ∧
      (∀ output last notices, Shows factory cache parts output last notices →
        output.length = parts.length ∧
        last = cache.acquired factory (parts.countP Part.isCode) ∧
        ∀ place : Nat, (∀ event isOther, parts[place]? = some (.other event isOther) →
            output[place]? = some event) ∧
          ∀ block, parts[place]? = some (.code block) →
            ∃ roots, output[place]? = some (.markup (Markup.render roots)) ∧
              ((block.highlight factory).run
                (cache.acquired factory (blocksBefore place))).value.1 = .ok roots) ∧
      (∀ error last notices, FailsFirst factory cache parts error last notices →
        ∃ place block, parts[place]? = some (.code block) ∧
          ((block.highlight factory).run
            (cache.acquired factory (blocksBefore place))).value = (.error error, last) ∧
          last = cache.acquired factory (blocksBefore place + 1)) ∧
      (parts.countP Part.isCode = 0 → run = ⟨(.ok (events, 0), cache), []⟩)) ∧
    -- The text of a block.
    (∀ block : CodeBlock,
      (∀ text, block.text = text ++ ['\n'] → block.source = String.ofList text) ∧
      ((¬ ∃ text, block.text = text ++ ['\n']) → block.source = String.ofList block.text)) ∧
    -- Documents.
    ∀ extended document, ∃ parts : List Part,
      Event.ofDocument extended document = parts.flatMap Part.events ∧
      (∀ rendering last notices, Rendering.run factory extended document cache =
          ⟨(.ok rendering, last), notices⟩ ↔
        ∃ output, Shows factory cache parts output last notices ∧
          rendering = ⟨Event.toHtml output, parts.countP Part.isCode⟩) ∧
      ∀ error last notices, Rendering.run factory extended document cache =
          ⟨(.error error, last), notices⟩ ↔
        FailsFirst factory cache parts error.cause last notices := by
  refine ⟨?_, ?_, ?_, ?_⟩
  · intro events
    exact Event.divided_iff_matched.symm
  · intro parts events run blocksBefore
    have highlighted : Rendering.highlightCode factory none events =
        Part.showAll factory parts fun output => (output, parts.countP Part.isCode) :=
      Rendering.highlightCode_events factory parts
    have ran : run = (Part.showAll factory parts fun output =>
        (output, parts.countP Part.isCode)).run cache := by
      rw [← highlighted]
    rw [ran]
    refine ⟨?_, ?_, ?_, ?_, ?_⟩
    · intro output count last notices
      rw [run_showAll_eq_ok_iff]
      constructor
      · rintro ⟨_, shows, same⟩
        cases same
        exact ⟨shows, rfl⟩
      · rintro ⟨shows, rfl⟩
        exact ⟨output, shows, rfl⟩
    · intro error last notices
      exact run_showAll_eq_error_iff
    · intro output last notices shows
      exact ⟨shows.length, shows.acquired, shows.getElem?⟩
    · intro error last notices fails
      exact fails.acquired
    · intro noCode
      have shows : Shows factory cache parts events cache [] := shows_of_no_code noCode
      rw [shows.run_showAll, noCode]
  · intro block
    constructor
    · intro text ends
      rw [CodeBlock.source, ends, Text.dropFinalNewline_append]
    · intro unended
      rw [CodeBlock.source, Text.dropFinalNewline_eq_self unended]
  · intro extended document
    obtain ⟨parts, divides⟩ := Event.divided_ofDocument extended document
    refine ⟨parts, divides, ?_, ?_⟩
    · intro rendering last notices
      rw [Rendering.run_eq_ok_iff, Rendering.render_eq_showAll divides, run_showAll_eq_ok_iff]
    · intro error last notices
      rw [Rendering.run_eq_error_iff, Rendering.render_eq_showAll divides,
        run_showAll_eq_error_iff]

theorem code_is_replaced_in_place_between_texts :
    let rust : CodeBlock := ⟨some "rust show=0", ["fn a\n", "\n"], none⟩
    let indented : CodeBlock := ⟨none, ["b"], none⟩
    let parts : List Part := [.other (.text "c") rfl, .code rust, .other .rule rfl, .code indented]
    let run (theme : String) := (Rendering.highlightCode Keyword.factory none
      (parts.flatMap Part.events)).run { configuration := ⟨[theme]⟩ }
    rust.source = "fn a\n" ∧
    (∃ output last notices, run "light" = ⟨(.ok (output, 2), last), notices⟩ ∧
      output.length = 4 ∧ output[0]? = some (.text "c") ∧ output[2]? = some .rule ∧
      last.builds = 1) ∧
    ∃ last notices, run "missing" =
      ⟨(.error (.engine (.unknownTheme "missing" none)), last), notices⟩ ∧ last.attempts = 1 := by
  intro rust indented parts run
  obtain ⟨_, shown, texts, _⟩ := code_is_replaced_in_place Keyword.factory
    { configuration := ⟨["light"]⟩ }
  obtain ⟨_, failed, _⟩ := code_is_replaced_in_place Keyword.factory
    { configuration := ⟨["missing"]⟩ }
  refine ⟨?_, ?_, ?_⟩
  · exact (texts rust).1 "fn a\n".toList rfl
  · obtain ⟨output, last, notices, shows⟩ : ∃ output last notices, Shows Keyword.factory
        { configuration := ⟨["light"]⟩ } parts output last notices :=
      ⟨_, _, _, .other (.code rfl (.other (.code rfl .nil)))⟩
    obtain ⟨succeeds, _, places, _⟩ := shown parts
    obtain ⟨same, finished, others⟩ := places output last notices shows
    have ran := (succeeds output 2 last notices).2 ⟨shows, rfl⟩
    refine ⟨output, last, notices, ran, same, ?_, ?_, ?_⟩
    · exact (others 0).1 _ rfl rfl
    · exact (others 2).1 _ rfl rfl
    · rw [finished]
      rfl
  · obtain ⟨last, notices, failsFirst, once⟩ : ∃ last notices, FailsFirst Keyword.factory
        { configuration := ⟨["missing"]⟩ }
        ([.other (.text "c") rfl] ++ .code rust :: [.other .rule rfl, .code indented])
        (.engine (.unknownTheme "missing" none)) last notices ∧ last.attempts = 1 :=
      ⟨_, _, .code (.other .nil) rfl, rfl⟩
    obtain ⟨_, fails, _⟩ := failed parts
    exact ⟨last, notices, (fails _ last notices).2 failsFirst, once⟩

end Markdown

end Listings
