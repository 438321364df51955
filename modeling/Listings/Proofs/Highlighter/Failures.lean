/-
This file says why highlighting fails, in the order in which its stages run, and what it has done
by then.
-/

import Listings.Engine.Grammars
import Listings.Engine.Preparation
import Listings.Proofs.Cache.History
import Listings.Proofs.FirstError
import Listings.Proofs.Highlighter.Outcome
import Listings.Proofs.Layout.Edits

namespace Listings

namespace Cache

variable {factory : Factory} {cache : Cache}

/-- The engine that is there, or else what the factory answers. -/
def engineInUse (factory : Factory) (cache : Cache) : Except EngineError Engine :=
  match cache.engine with
  | some built => .ok built.engine
  | none => (factory.create cache.attempts cache.configuration).value

/-- There is no engine, and the factory gives none. -/
def NotMade (factory : Factory) (cache : Cache) (cause : EngineError) : Prop :=
  cache.engine = none ∧ (factory.create cache.attempts cache.configuration).value = .error cause

theorem engineInUse_eq_error_iff {cause : EngineError} :
    cache.engineInUse factory = .error cause ↔ cache.NotMade factory cause := by
  unfold engineInUse NotMade
  cases present : cache.engine with
  | some built => exact iff_of_false nofun nofun
  | none => exact (and_iff_right rfl).symm

theorem NotMade.only {cause : EngineError} (notMade : cache.NotMade factory cause)
    (other : EngineError) : cache.NotMade factory other ↔ cause = other := by
  constructor
  · intro alsoNotMade
    exact Except.error.inj (notMade.2.symm.trans alsoNotMade.2)
  · rintro rfl
    exact notMade

/-- The engine in use is handed out together with the themes that are configured now. -/
theorem acquire_of_inUse {engine : Engine} (inUse : cache.engineInUse factory = .ok engine) :
    ∃ attempt later, (cache.acquire factory).value =
      (.ok ⟨attempt, cache.configuration, engine⟩, later) ∧ later.engine ≠ none := by
  unfold engineInUse at inUse
  rcases acquire_cases factory cache with
    ⟨built, present, outcome⟩ | ⟨error, absent, failed, _⟩ | ⟨_, absent, created, outcome⟩
  · rw [present] at inUse
    cases inUse
    exact ⟨built.attempt, cache, outcome, by rw [present]; nofun⟩
  · rw [absent] at inUse
    cases inUse.symm.trans failed
  · rw [absent] at inUse
    cases inUse.symm.trans created
    exact ⟨_, _, outcome, nofun⟩

theorem acquire_of_notMade {cause : EngineError} (notMade : cache.NotMade factory cause) :
    ∃ later, (cache.acquire factory).value = (.error cause, later) ∧ later.engine = none :=
  ⟨_, acquire_of_error notMade.1 notMade.2, notMade.1⟩

end Cache

namespace Highlighter

/-- The language that a text is to be read in. -/
def Names (language : Option String) (name : String) : Prop :=
  language = some name ∧ name ≠ "" ∧ name ≠ unknownLanguage

theorem wantedLanguage?_eq_some_iff {language : Option String} {name : String} :
    wantedLanguage? language = some name ↔ Names language name := by
  rw [wantedLanguage?, Option.filter_eq_some_iff, Names, Bool.and_eq_true, Bool.not_eq_true',
    bne_iff_ne, ← Bool.not_eq_true, String.isEmpty_iff]

end Highlighter

open Highlighter

/-- The engine can cut a text of this language. -/
def Engine.Reads (engine : Engine) (language : Option String) (name : String) : Prop :=
  Names language name ∧ engine.hasLanguage name = true

variable {text : String} {language : Option String} {error : HighlightError}

section Reads

variable {engine : Engine} {name : String} {holds : String → Prop}

theorem Engine.Reads.unique {other : String} (reads : engine.Reads language name)
    (readsOther : engine.Reads language other) : name = other :=
  Option.some.inj (reads.1.1.symm.trans readsOther.1.1)

end Reads

namespace BuiltEngine

variable {built : BuiltEngine}

/-- Without a language that the engine has, there is nothing to do but to look the palettes up. -/
theorem tokenized_of_unread (unread : ∀ name, ¬ built.engine.Reads language name) :
    built.tokenized text language = built.palettes.map Tokenized.whole := by
  have isWhole : built.tokenized text language =
      built.palettes >>= fun palettes => pure (.whole palettes) := by
    refine bind_congr fun palettes => ?_
    cases wanted : wantedLanguage? language with
    | none => rfl
    | some name =>
        have foreign : ¬ built.engine.hasLanguage name = true := fun known =>
          unread name ⟨wantedLanguage?_eq_some_iff.1 wanted, known⟩
        exact if_neg foreign
  rw [isWhole]
  rfl

theorem tokenized_of_reads {name : String} (reads : built.engine.Reads language name) :
    built.tokenized text language = built.palettes >>= fun palettes =>
      (tokenBlocks built text name palettes).map Tokenized.blocks := by
  refine bind_congr fun palettes => ?_
  rw [wantedLanguage?_eq_some_iff.2 reads.1]
  exact if_pos reads.2

/-- The language for whose want the text stays whole. -/
def missing? (built : BuiltEngine) (language : Option String) : Option String :=
  match built.palettes with
  | .error _ => none
  | .ok _ => (wantedLanguage? language).filter fun name => !built.engine.hasLanguage name

end BuiltEngine

namespace Highlighter

open Highlighting Layout

variable {factory : Factory} {cache : Cache}

theorem notices_tokenize :
    notices (tokenize factory text language) cache = (cache.acquire factory).notices ++
      match (cache.acquire factory).value.1 with
      | .error _ => []
      | .ok built => ((built.missing? language).map Notice.unknownLanguage).toList := by
  rw [tokenize, notices_bind, notices_built, outcome_built]
  rcases (cache.acquire factory).value with ⟨error | built, later⟩
  · rfl
  · refine congrArg (_ ++ ·) ?_
    change notices (lift built.palettes >>= _) later =
      ((built.missing? language).map Notice.unknownLanguage).toList
    rw [notices_bind, notices_lift, outcome_lift, List.nil_append, BuiltEngine.missing?]
    cases built.palettes with
    | error error => rfl
    | ok palettes =>
        dsimp only
        cases wantedLanguage? language with
        | none => rfl
        | some name =>
            dsimp only
            rw [Option.filter_some]
            cases built.engine.hasLanguage name with
            | false => rfl
            | true =>
                change notices (lift (tokenBlocks built text name palettes) >>= _) later = []
                rw [notices_bind, notices_lift, outcome_lift]
                cases tokenBlocks built text name palettes <;> rfl

/-- Without an engine there is nothing to cut. -/
theorem run_highlight_of_notMade (text : String) (language : Option String) {cause : EngineError}
    (notMade : cache.NotMade factory cause) :
    ∃ later : Cache, later.engine = none ∧ ∀ {σ : Type} (directive : Directive)
      (makers : List (EditMaker σ)) (state : σ),
        (highlight factory text language directive makers).run state cache =
          ⟨(.error (.engine cause), state, later), (cache.acquire factory).notices⟩ := by
  obtain ⟨later, acquired, absent⟩ := Cache.acquire_of_notMade notMade
  refine ⟨later, absent, ?_⟩
  intro σ directive makers state
  rw [run_highlight, run_eq, outcome_tokenize, notices_tokenize, acquired]
  exact congrArg (Reported.mk _) (List.append_nil _)

/-- The engine in use decides what is cut and whether a language is missing. -/
theorem run_highlight_of_inUse (text : String) (language : Option String) {engine : Engine}
    (inUse : cache.engineInUse factory = .ok engine) :
    ∃ (built : BuiltEngine) (later : Cache), built.engine = engine ∧
      built.configuration = cache.configuration ∧ later.engine ≠ none ∧
      ∀ {σ : Type} (directive : Directive) (makers : List (EditMaker σ)) (state : σ),
        (highlight factory text language directive makers).run state cache =
          let done := afterCut text directive makers state (built.tokenized text language)
          ⟨(done.1, done.2, later), (cache.acquire factory).notices ++
            ((built.missing? language).map Notice.unknownLanguage).toList⟩ := by
  obtain ⟨attempt, later, acquired, present⟩ := Cache.acquire_of_inUse inUse
  refine ⟨⟨attempt, cache.configuration, engine⟩, later, rfl, rfl, present, ?_⟩
  intro σ directive makers state
  rw [run_highlight, run_eq, outcome_tokenize, notices_tokenize, acquired]
  rfl

end Highlighter

end Listings
