/-
This file shows that a text in a known language fails for nothing but a missing theme or a rule
that leads to no context.
-/

import Listings.Engine.Grammars
import Listings.Proofs.FirstError

namespace Listings

namespace Nesting

variable {grammar : Grammar} {error : TokenizeError}

/-- Some rule leads to a context that the grammar does not have. -/
def LeadsNowhere (error : TokenizeError) : Prop :=
  ∃ name, error = .unresolvedContext (Text.quoted name)

theorem leadsNowhere_of_perform {contexts : List Context} {candidate : Candidate}
    (fails : perform grammar contexts candidate = .error error) : LeadsNowhere error := by
  unfold perform at fails
  cases move : candidate.rule.move with
  | stay =>
      rw [move] at fails
      contradiction
  | pop =>
      rw [move] at fails
      contradiction
  | push name =>
      rw [move] at fails
      dsimp only at fails
      cases found : grammar.context? name with
      | some opened =>
          rw [found] at fails
          contradiction
      | none =>
          rw [found] at fails
          cases fails
          exact ⟨name, rfl⟩

theorem leadsNowhere_of_follow {fuel : Nat} {cursor : Cursor} {contexts : List Context}
    {last : Opening} (fails : follow grammar fuel cursor contexts last = .error error) :
    LeadsNowhere error := by
  induction fuel generalizing cursor contexts last with
  | zero => contradiction
  | succ fuel inductionHypothesis =>
      rw [follow] at fails
      dsimp only at fails
      split at fails
      · contradiction
      · rename_i candidate _
        split at fails
        · split at fails
          · exact inductionHypothesis fails
          · contradiction
        · rcases bind_eq_error_iff.1 fails with fails | ⟨performed, _, fails⟩
          · exact leadsNowhere_of_perform fails
          · rcases bind_eq_error_iff.1 fails with fails | ⟨_, _, done⟩
            · exact inductionHypothesis fails
            · contradiction

theorem leadsNowhere_of_parseLine {nesting : Nesting} {line : List Char}
    (fails : parseLine grammar nesting line = .error error) : LeadsNowhere error := by
  rcases bind_eq_error_iff.1 fails with fails | ⟨_, _, done⟩
  · exact leadsNowhere_of_follow fails
  · contradiction

end Nesting

namespace Scoping

variable {State Stack Change : Type}

/-- Whatever goes wrong while a line is read or its scopes change is of one kind. -/
structure FailsOnlyWith (scoping : Scoping State Stack Change) (kind : TokenizeError → Prop) :
    Prop where
  reading : ∀ {state line error}, scoping.readLine state line = .error error → kind error
  applying : ∀ {stack change error}, scoping.apply stack change = .error error → kind error

variable {scoping : Scoping State Stack Change} {kind : TokenizeError → Prop} {look : Stack → Look}
  {error : TokenizeError}

theorem FailsOnlyWith.cut (only : scoping.FailsOnlyWith kind) {content : List Char} {position : Nat}
    {stack : Stack} {changes : List (Placed Change)}
    (fails : scoping.cut content position stack changes = .error error) : kind error := by
  induction changes generalizing position stack with
  | nil => contradiction
  | cons placed changes inductionHypothesis =>
      rcases bind_eq_error_iff.1 fails with fails | ⟨next, _, fails⟩
      · exact only.applying fails
      · rcases bind_eq_error_iff.1 fails with fails | ⟨_, _, done⟩
        · exact inductionHypothesis fails
        · contradiction

theorem FailsOnlyWith.tokenizeLines (only : scoping.FailsOnlyWith kind) {state : State}
    {stack : Stack} {lines : List (List Char)}
    (fails : scoping.tokenizeLines look state stack lines = .error error) : kind error := by
  induction lines generalizing state stack with
  | nil => contradiction
  | cons line lines inductionHypothesis =>
      rcases bind_eq_error_iff.1 fails with fails | ⟨read, _, fails⟩
      · exact only.reading fails
      · rcases bind_eq_error_iff.1 fails with fails | ⟨styled, _, fails⟩
        · rcases bind_eq_error_iff.1 fails with fails | ⟨_, _, done⟩
          · exact only.cut fails
          · contradiction
        · rcases bind_eq_error_iff.1 fails with fails | ⟨_, _, done⟩
          · exact inductionHypothesis fails
          · contradiction

/-- A text whose language is known fails for its theme or in one of its lines. -/
theorem FailsOnlyWith.tokenize (only : scoping.FailsOnlyWith kind)
    {looks : String → Except HighlightError (Stack → Look)} {text language theme : String}
    {failure : HighlightError} (known : (scoping.start? language).isSome)
    (fails : scoping.tokenize looks text language theme = .error failure) :
    looks theme = .error failure ∨ ∃ error, kind error ∧ failure = .tokenize language error := by
  obtain ⟨state, start⟩ := Option.isSome_iff_exists.1 known
  rw [Scoping.tokenize, start] at fails
  rcases bind_eq_error_iff.1 fails with fails | ⟨look, _, fails⟩
  · exact Or.inl fails
  · obtain ⟨error, failsInLine, isFailure⟩ := mapError_eq_error_iff.1 fails
    exact Or.inr ⟨error, only.tokenizeLines failsInLine, isFailure⟩

end Scoping

theorem ThemeSet.eq_unknownTheme_of_look {themes : ThemeSet} {name : String}
    {failure : HighlightError} (fails : themes.look name = .error failure) :
    failure = .unknownTheme name := by
  rw [ThemeSet.look, map_eq_error_iff, ThemeSet.find] at fails
  split at fails
  · contradiction
  · exact (Except.error.inj fails).symm

namespace Grammar

theorem failsOnlyWith_scoping (find? : String → Option Grammar) :
    (scoping find?).FailsOnlyWith Nesting.LeadsNowhere where
  reading fails := by
    rcases bind_eq_error_iff.1 fails with fails | ⟨_, _, done⟩
    · exact Nesting.leadsNowhere_of_parseLine fails
    · contradiction
  applying fails := by contradiction

/-- The one failure for want of a grammar is that of a language without one. -/
theorem tokenize_eq_noGrammar_iff {find? : String → Option Grammar} {themes : ThemeSet}
    {text language theme : String} :
    (scoping find?).tokenize themes.look text language theme =
        .error (.tokenize language .noGrammar) ↔
      find? language = none := by
  have isStart : (scoping find?).start? language =
      (find? language).map fun grammar => (grammar, Nesting.start grammar) := rfl
  constructor
  · intro fails
    by_contra isKnown
    have starts : ((scoping find?).start? language).isSome := by
      rw [isStart, Option.isSome_map, Option.isSome_iff_ne_none]
      exact isKnown
    rcases (failsOnlyWith_scoping find?).tokenize starts fails with ofTheme | ⟨_, ⟨_, rfl⟩, same⟩
    · cases ThemeSet.eq_unknownTheme_of_look ofTheme
    · cases same
  · intro unknown
    rw [Scoping.tokenize, isStart, unknown]
    rfl

end Grammar

end Listings
