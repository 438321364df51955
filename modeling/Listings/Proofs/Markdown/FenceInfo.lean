/-
This file shows that a language and a directive come back from the info text that joins them, and
that no word of an info text is lost where it is split.
-/

import Listings.Directive.Reader
import Listings.Markdown.Fence
import Listings.Proofs.Text.Blanks

namespace Listings.Markdown

open Text

/-- An info text is a language and a directive with blanks before, between and after them. -/
structure FenceInfo.IsLaidOut (info before language between directive after : List Char) :
    Prop where
  text : info = before ++ (language ++ (between ++ (directive ++ after)))
  beforeBlank : IsBlankText before
  betweenBlank : IsBlankText between
  afterBlank : IsBlankText after
  isWord : IsWord language
  trimmed : IsTrimmed directive
  apart : directive ≠ [] → between ≠ []

namespace FenceInfo

variable {info before language between directive after rest : List Char}

theorem IsLaidOut.endsLanguage
    (laidOut : IsLaidOut info before language between directive after) :
    ∀ c ∈ (between ++ (directive ++ after)).head?, isBlank c = true := by
  intro c isFirst
  cases between with
  | nil =>
      have noDirective : directive = [] := not_imp_comm.1 laidOut.apart (not_not_intro rfl)
      rw [noDirective] at isFirst
      exact laidOut.afterBlank c (List.mem_of_mem_head? isFirst)
  | cons stop more =>
      cases isFirst
      exact laidOut.betweenBlank _ List.mem_cons_self

theorem IsLaidOut.words (laidOut : IsLaidOut info before language between directive after) :
    Text.words info = language :: Text.words directive := by
  rw [laidOut.text, words_blank_append laidOut.beforeBlank,
    words_word_append laidOut.isWord laidOut.endsLanguage, words_blank_append laidOut.betweenBlank,
    words_append_of_blank directive laidOut.afterBlank]

/-- What follows the language is the same wherever it is looked for. -/
theorem IsLaidOut.eq_rest (laidOut : IsLaidOut info before language between directive after)
    {blanks : List Char} (blank : IsBlankText blanks) (same : info = blanks ++ (language ++ rest)) :
    rest = between ++ (directive ++ after) := by
  have starts : ∀ more : List Char, trimStart (language ++ more) = language ++ more :=
    fun more => trimStart_eq_self (laidOut.isWord.first_append more)
  have trimmed := congrArg trimStart (same.symm.trans laidOut.text)
  rw [trimStart_blank_append blank, trimStart_blank_append laidOut.beforeBlank, starts, starts]
    at trimmed
  exact List.append_cancel_left trimmed

/-- Every info text names nothing, or it is split into the parts that it is laid out of. -/
theorem split_cases (info : List Char) :
    IsBlankText info ∧ split info = {} ∨
      ∃ before language between directive after,
        IsLaidOut info before language between directive after ∧
          split info = ⟨some language, directive⟩ := by
  obtain ⟨before, after, beforeBlank, afterBlank, text⟩ := exists_append_trim info
  have trimmed := isTrimmed_trim info
  unfold split
  -- From here on only what is trimmed is cut.
  generalize trim info = middle at text trimmed ⊢
  cases middle with
  | nil =>
      rw [text]
      exact Or.inl ⟨isBlankText_append.2 ⟨beforeBlank, afterBlank⟩, rfl⟩
  | cons letter letters =>
      right
      rw [if_neg (by simp)]
      cases cut : cutAt? isBlank (letter :: letters) with
      | none =>
          have isWord : IsWord (letter :: letters) :=
            ⟨List.cons_ne_nil _ _, cutAt?_eq_none_iff_forall.1 cut⟩
          exact ⟨before, letter :: letters, [], [], after, ⟨text, beforeBlank, isBlankText_nil,
            afterBlank, isWord, isTrimmed_nil, absurd rfl⟩, rfl⟩
      | some sides =>
          obtain ⟨language, directive⟩ := sides
          obtain ⟨stop, stops, whole, middleSplit⟩ := exists_of_cutAt?_eq_some cut
          obtain ⟨blanks, blanksBlank, directiveSplit⟩ := exists_append_trimStart directive
          have nonempty : language ≠ [] := by
            rintro rfl
            cases middleSplit
            exact Bool.noConfusion (stops.symm.trans (trimmed.first letter rfl))
          have lastVisible : ∀ c ∈ directive.getLast?, isBlank c = false := by
            intro c isLast
            apply trimmed.last c
            rw [middleSplit, List.getLast?_append, List.getLast?_cons, Option.mem_def.1 isLast]
            rfl
          refine ⟨before, language, stop :: blanks, trimStart directive, after,
            ⟨?_, beforeBlank, List.forall_mem_cons.2 ⟨stops, blanksBlank⟩, afterBlank,
              ⟨nonempty, whole⟩, ⟨head?_trimStart directive, getLast?_trimStart lastVisible⟩,
              fun _ => List.cons_ne_nil _ _⟩, rfl⟩
          rw [text, middleSplit, List.append_assoc, List.cons_append, List.cons_append,
            ← List.append_assoc blanks, ← directiveSplit]

/-- No word of an info text is lost and none is made up where it is split: the first is the
language, and the directive reads as all that follows it. -/
theorem split_keeps_words (info : List Char) :
    (words info = [] ↔ (FenceInfo.split info).language = none) ∧
    ((split info).language = none → (split info).directive = []) ∧
    (∀ language, (split info).language = some language →
      (language ≠ [] ∧ ∀ c ∈ language, isBlank c = false) ∧
      words info = language :: words (split info).directive ∧
      ∀ blanks rest, IsBlankText blanks → info = blanks ++ (language ++ rest) →
        Directive.read (String.ofList (split info).directive) =
          Directive.read (String.ofList (blanks ++ rest))) ∧
    (∀ c, (split info).directive.head? = some c ∨ (split info).directive.getLast? = some c →
      isBlank c = false) ∧
    ∃ before between after, IsBlankText before ∧ IsBlankText between ∧ IsBlankText after ∧
      ((split info).directive ≠ [] → between ≠ []) ∧
      info = before ++ ((split info).language.getD [] ++
        (between ++ ((split info).directive ++ after))) := by
  obtain ⟨blank, isSplit⟩ | ⟨before, language, between, directive, after, laidOut, isSplit⟩ :=
    split_cases info
  · rw [isSplit]
    refine ⟨iff_of_true (words_of_blank blank) rfl, fun _ => rfl, nofun, nofun, ?_⟩
    exact ⟨info, [], [], blank, isBlankText_nil, isBlankText_nil, absurd rfl,
      (List.append_nil info).symm⟩
  · rw [isSplit]
    refine ⟨iff_of_false ?_ nofun, nofun, ?_, ?_, ?_⟩
    · rw [laidOut.words]
      exact List.cons_ne_nil _ _
    · rintro _ ⟨⟩
      refine ⟨laidOut.isWord, laidOut.words, ?_⟩
      intro blanks rest blanksBlank same
      have sameWords : words directive = words (blanks ++ rest) := by
        rw [words_blank_append blanksBlank, laidOut.eq_rest blanksBlank same,
          words_blank_append laidOut.betweenBlank, words_append_of_blank _ laidOut.afterBlank]
      rw [Directive.read, Directive.read, String.toList_ofList, String.toList_ofList, sameWords]
    · rintro c (isFirst | isLast)
      · exact laidOut.trimmed.first c isFirst
      · exact laidOut.trimmed.last c isLast
    · exact ⟨before, between, after, laidOut.beforeBlank, laidOut.betweenBlank,
        laidOut.afterBlank, laidOut.apart, laidOut.text⟩

theorem split_keeps_words_between_wide_blanks :
    let info := "\u00a0rust\u3000\thide=1 hide=2\n".toList
    (split info).language = some "rust".toList ∧
    words info = "rust".toList :: words (split info).directive ∧
    Directive.read (String.ofList (split info).directive) =
      Directive.read "\u00a0\u3000\thide=1 hide=2\n" := by
  intro info
  obtain ⟨_, _, named, _⟩ := split_keeps_words info
  have isRust : (split info).language = some "rust".toList := by decide
  obtain ⟨_, sameWords, reads⟩ := named _ isRust
  exact ⟨isRust, sameWords, reads ['\u00a0'] "\u3000\thide=1 hide=2\n".toList
    (List.forall_mem_singleton.2 (by decide)) (by decide)⟩

end FenceInfo

end Listings.Markdown
