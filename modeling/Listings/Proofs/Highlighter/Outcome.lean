/-
This file gives the outcome of highlighting as a function of the engine that the cache hands out.
-/

import Listings.Highlighter

namespace Listings

variable {α β : Type}

namespace Highlighting

/-- The outcome and the cache after it, without what was reported. -/
def outcome (action : Highlighting α) (cache : Cache) : Except HighlightError α × Cache :=
  (action.run cache).value

theorem outcome_bind (first : Highlighting α) (next : α → Highlighting β) (cache : Cache) :
    outcome (first >>= next) cache =
      match outcome first cache with
      | (.ok value, later) => outcome (next value) later
      | (.error error, later) => (.error error, later) := by
  change (ExceptT.bindCont next (first cache).value.1 (first cache).value.2).value = _
  unfold outcome run
  change _ = match (first cache).value with
    | (.ok value, later) => _
    | (.error error, later) => _
  rcases (first cache).value with ⟨_ | _, later⟩ <;> rfl

theorem outcome_built (factory : Factory) (cache : Cache) :
    outcome (built factory) cache =
      ((cache.acquire factory).value.1.mapError .engine, (cache.acquire factory).value.2) := rfl

theorem outcome_lift (result : Except HighlightError α) (cache : Cache) :
    outcome (lift result) cache = (result, cache) := rfl

/-- What was reported on the way to the outcome. -/
def notices (action : Highlighting α) (cache : Cache) : List Notice := (action.run cache).notices

theorem run_eq (action : Highlighting α) (cache : Cache) :
    action.run cache = ⟨outcome action cache, notices action cache⟩ := rfl

theorem notices_bind (first : Highlighting α) (next : α → Highlighting β) (cache : Cache) :
    notices (first >>= next) cache = notices first cache ++
      match outcome first cache with
      | (.ok value, later) => notices (next value) later
      | (.error _, _) => [] := by
  change (first cache).notices ++
    (ExceptT.bindCont next (first cache).value.1 (first cache).value.2).notices = _
  unfold notices outcome run
  refine congrArg ((first cache).notices ++ ·) ?_
  change _ = match (first cache).value with
    | (.ok value, later) => _
    | (.error _, _) => _
  rcases (first cache).value with ⟨_ | _, later⟩ <;> rfl

theorem run_bind_of_ok {first : Highlighting α} {next : α → Highlighting β} {cache later : Cache}
    {value : α} {reported : List Notice}
    (done : first.run cache = ⟨(.ok value, later), reported⟩) :
    (first >>= next).run cache =
      ⟨((next value).run later).value, reported ++ ((next value).run later).notices⟩ := by
  have outcomeFirst : outcome first cache = (.ok value, later) := congrArg Reported.value done
  have noticesFirst : notices first cache = reported := congrArg Reported.notices done
  rw [run_eq, outcome_bind, notices_bind, outcomeFirst, noticesFirst]
  rfl

theorem run_bind_of_error {first : Highlighting α} {next : α → Highlighting β}
    {cache later : Cache} {error : HighlightError} {reported : List Notice}
    (failed : first.run cache = ⟨(.error error, later), reported⟩) :
    (first >>= next).run cache = ⟨(.error error, later), reported⟩ := by
  have outcomeFirst : outcome first cache = (.error error, later) := congrArg Reported.value failed
  have noticesFirst : notices first cache = reported := congrArg Reported.notices failed
  rw [run_eq, outcome_bind, notices_bind, outcomeFirst, noticesFirst, List.append_nil]

theorem run_mapM_cons_of_ok {step : α → Highlighting β} {item : α} {rest : List α}
    {cache next last : Cache} {result : β} {results : List β} {reported more : List Notice}
    (done : (step item).run cache = ⟨(.ok result, next), reported⟩)
    (others : (rest.mapM step).run next = ⟨(.ok results, last), more⟩) :
    ((item :: rest).mapM step).run cache =
      ⟨(.ok (result :: results), last), reported ++ more⟩ := by
  rw [List.mapM_cons, run_bind_of_ok done, run_bind_of_ok others]
  change Reported.mk _ (reported ++ (more ++ [])) = _
  rw [List.append_nil]
  rfl

theorem notices_built (factory : Factory) (cache : Cache) :
    notices (built factory) cache = (cache.acquire factory).notices :=
  List.append_nil _

theorem notices_lift (result : Except HighlightError α) (cache : Cache) :
    notices (lift result) cache = [] := rfl

end Highlighting

/-- How the engine cuts a text, or keeps it whole for want of a language. -/
def BuiltEngine.tokenized (built : BuiltEngine) (text : String) (language : Option String) :
    Except HighlightError Tokenized := do
  let palettes ← built.palettes
  match Highlighter.wantedLanguage? language with
  | none => pure (.whole palettes)
  | some name =>
      if built.engine.hasLanguage name then
        let blocks ← Highlighter.tokenBlocks built text name palettes
        pure (.blocks blocks)
      else pure (.whole palettes)

namespace Highlighter

open Highlighting

theorem outcome_tokenize (factory : Factory) (text : String) (language : Option String)
    (cache : Cache) :
    outcome (tokenize factory text language) cache =
      (((cache.acquire factory).value.1.mapError .engine).bind fun built =>
        built.tokenized text language, (cache.acquire factory).value.2) := by
  rw [tokenize, outcome_bind, outcome_built]
  rcases (cache.acquire factory).value with ⟨error | built, later⟩
  · rfl
  · change outcome (lift built.palettes >>= _) later = (built.tokenized text language, later)
    rw [outcome_bind, outcome_lift, BuiltEngine.tokenized]
    cases built.palettes with
    | error error => rfl
    | ok palettes =>
        dsimp only
        cases wantedLanguage? language with
        | none => rfl
        | some name =>
            change outcome (if built.engine.hasLanguage name then _ else _) later =
              ((if built.engine.hasLanguage name then _ else _), later)
            split
            · rw [outcome_bind, outcome_lift]
              cases tokenBlocks built text name palettes <;> rfl
            · rfl

variable {σ : Type}

/-- What comes of a text that was cut, or not, and what the edits remember then. -/
def afterCut (text : String) (directive : Directive) (makers : List (EditMaker σ)) (state : σ) :
    Except HighlightError Tokenized → Except HighlightError (List Markup.Element) × σ
  | .ok tokenized =>
      (.ok (layOut text directive makers tokenized state).1,
        (layOut text directive makers tokenized state).2)
  | .error error => (.error error, state)

theorem afterCut_fst (text : String) (directive : Directive) (makers : List (EditMaker σ))
    (state : σ) (cut : Except HighlightError Tokenized) :
    (afterCut text directive makers state cut).1 =
      cut.map fun tokenized => (layOut text directive makers tokenized state).1 := by
  cases cut <;> rfl

/-- Highlighting cuts the text first, and only what was cut is laid out. -/
theorem run_highlight (factory : Factory) (text : String) (language : Option String)
    (directive : Directive) (makers : List (EditMaker σ)) (state : σ) (cache : Cache) :
    (highlight factory text language directive makers).run state cache =
      let cut := (tokenize factory text language).run cache
      ⟨((afterCut text directive makers state cut.value.1).1,
        (afterCut text directive makers state cut.value.1).2, cut.value.2), cut.notices⟩ := by
  have ran : (highlight factory text language directive makers).run state cache =
      (do
        let (result, later) ← (tokenize factory text language).run cache
        pure (result, state, later)) >>= fun cut =>
          ExceptT.bindCont (fun tokenized =>
            Editing.ofEdits (layOut text directive makers tokenized)) cut.1 cut.2 := rfl
  rw [ran]
  rcases (tokenize factory text language).run cache with ⟨⟨error | tokenized, later⟩, notices⟩
  all_goals
    change Reported.mk _ (notices ++ [] ++ []) = _
    rw [List.append_nil, List.append_nil]
    rfl

theorem run_toHighlighting {α : Type} (action : Editing Unit α) (cache : Cache) :
    action.toHighlighting.run cache =
      let ran := action.run () cache
      ⟨(ran.value.1, ran.value.2.2), ran.notices⟩ := by
  change Reported.mk _ ((action.run () cache).notices ++ []) = _
  rw [List.append_nil]
  rfl

/-- What is wrong with a directive is reported before anything else. -/
theorem run_highlightAs (factory : Factory) (text : String) (language : Option String)
    (directive : String) (cache : Cache) :
    (highlightAs factory text language directive).run cache =
      let laid := (highlight factory text language (Directive.read directive).value []).run () cache
      ⟨(laid.value.1, laid.value.2.2), (Directive.read directive).notices ++ laid.notices⟩ := by
  have reads : Highlighting.run (ExceptT.lift (StateT.lift (Directive.read directive))) cache =
      ⟨(.ok (Directive.read directive).value, cache), (Directive.read directive).notices⟩ := by
    change Reported.mk _ ((Directive.read directive).notices ++ [] ++ []) = _
    rw [List.append_nil, List.append_nil]
    rfl
  rw [highlightAs, run_bind_of_ok reads, run_toHighlighting]

theorem outcome_highlightAs (factory : Factory) (text : String) (language : Option String)
    (directive : String) (cache : Cache) :
    outcome (highlightAs factory text language directive) cache =
      (((cache.acquire factory).value.1.mapError .engine).bind fun built =>
        (built.tokenized text language).map fun tokenized =>
          (layOut text (Directive.read directive).value [] tokenized ()).1,
        (cache.acquire factory).value.2) := by
  have cut := outcome_tokenize factory text language cache
  rw [outcome] at cut ⊢
  rw [run_highlightAs, run_highlight]
  dsimp only
  rw [cut, afterCut_fst]
  cases (cache.acquire factory).value.1 <;> rfl

/-- Whatever comes of it, highlighting asks for the engine once. -/
theorem cache_highlightAs (factory : Factory) (text : String) (language : Option String)
    (directive : String) (cache : Cache) :
    (outcome (highlightAs factory text language directive) cache).2 =
      (cache.acquire factory).value.2 := by
  rw [outcome_highlightAs]

/-- Highlighting succeeds only on an engine that is there and cuts the text. -/
theorem exists_layOut_of_highlight_ok {factory : Factory} {text : String}
    {language : Option String} {directive : Directive} {makers : List (EditMaker σ)} {state : σ}
    {cache : Cache} {roots : List Markup.Element}
    (succeeds : ((highlight factory text language directive makers).run state cache).value.1 =
      .ok roots) :
    ∃ built tokenized, (cache.acquire factory).value.1 = .ok built ∧
      built.tokenized text language = .ok tokenized ∧
      (layOut text directive makers tokenized state).1 = roots := by
  have cut := outcome_tokenize factory text language cache
  rw [outcome] at cut
  rw [run_highlight, afterCut_fst, cut] at succeeds
  cases acquired : (cache.acquire factory).value.1 with
  | error error =>
      rw [acquired] at succeeds
      contradiction
  | ok built =>
      rw [acquired] at succeeds
      change (built.tokenized text language).map _ = _ at succeeds
      cases tokenizes : built.tokenized text language with
      | error error =>
          rw [tokenizes] at succeeds
          contradiction
      | ok tokenized =>
          rw [tokenizes] at succeeds
          exact ⟨built, tokenized, rfl, tokenizes, Except.ok.inj succeeds⟩

end Highlighter

end Listings
