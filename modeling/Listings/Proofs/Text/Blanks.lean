/-
This file says what blanks at the ends of a text and between its words come to.
-/

import Listings.Proofs.Text.Pieces

namespace Listings.Text

/-- There is nothing but blanks in the text. -/
def IsBlankText (text : List Char) : Prop := ∀ c ∈ text, isBlank c = true

variable {text before after : List Char}

theorem isBlankText_nil : IsBlankText [] := List.forall_mem_nil _

theorem isBlankText_append :
    IsBlankText (before ++ after) ↔ IsBlankText before ∧ IsBlankText after :=
  List.forall_mem_append

theorem isBlankText_takeWhile (text : List Char) : IsBlankText (text.takeWhile isBlank) :=
  fun _ member => List.mem_takeWhile_imp member

theorem words_blank_append (blank : IsBlankText before) (text : List Char) :
    words (before ++ text) = words text := by
  induction before with
  | nil => rfl
  | cons c more inductionHypothesis =>
      obtain ⟨stops, moreBlank⟩ := List.forall_mem_cons.1 blank
      have noWord := words_append_stop stops [] (more ++ text)
      rw [List.cons_append, ← List.nil_append (c :: _), noWord, inductionHypothesis moreBlank]
      rfl

theorem words_of_blank (blank : IsBlankText text) : words text = [] := by
  rw [← List.append_nil text, words_blank_append blank]
  rfl

theorem words_append_of_blank (text : List Char) (blank : IsBlankText after) :
    words (text ++ after) = words text := by
  cases after with
  | nil => rw [List.append_nil]
  | cons c more =>
      obtain ⟨stops, moreBlank⟩ := List.forall_mem_cons.1 blank
      rw [words_append_stop stops, words_of_blank moreBlank, List.append_nil]

/-- A word ends where the text does or where a blank follows. -/
theorem words_word_append {word : List Char} (isWord : IsWord word)
    (ends : ∀ c ∈ text.head?, isBlank c = true) : words (word ++ text) = word :: words text := by
  cases text with
  | nil => rw [List.append_nil, words_eq_singleton isWord]; rfl
  | cons stop rest =>
      have stops := ends stop rfl
      rw [words_append_stop stops, words_eq_singleton isWord]
      exact congrArg (word :: ·) (words_append_stop stops [] rest).symm

/-- A word that blanks keep apart from what is around it is one of the words of the text. -/
theorem words_append_word_append {word : List Char} (isWord : IsWord word)
    (begins : ∀ c ∈ before.getLast?, isBlank c = true)
    (ends : ∀ c ∈ after.head?, isBlank c = true) :
    words (before ++ (word ++ after)) = words before ++ word :: words after := by
  rcases List.eq_nil_or_concat before with rfl | ⟨front, stop, rfl⟩
  · exact words_word_append isWord ends
  · have stops : isBlank stop = true := begins stop (by simp)
    rw [List.concat_eq_append, List.append_assoc, List.singleton_append, words_append_stop stops,
      words_word_append isWord ends,
      words_append_of_blank front (List.forall_mem_singleton.2 stops)]

theorem trimStart_blank_append (blank : IsBlankText before) (text : List Char) :
    trimStart (before ++ text) = trimStart text :=
  List.dropWhile_append_of_pos blank

theorem exists_append_trimStart (text : List Char) :
    ∃ before, IsBlankText before ∧ text = before ++ trimStart text :=
  ⟨text.takeWhile isBlank, isBlankText_takeWhile text, List.takeWhile_append_dropWhile.symm⟩

theorem head?_trimStart (text : List Char) : ∀ c ∈ (trimStart text).head?, isBlank c = false := by
  intro c isFirst
  have stops := List.head?_dropWhile_not isBlank text
  rw [trimStart, Option.mem_def] at isFirst
  simpa [isFirst] using stops

theorem getLast?_trimStart (last : ∀ c ∈ text.getLast?, isBlank c = false) :
    ∀ c ∈ (trimStart text).getLast?, isBlank c = false := by
  obtain ⟨before, _, split⟩ := exists_append_trimStart text
  intro c isLast
  apply last c
  rw [split, List.getLast?_append, Option.mem_def.1 isLast]
  rfl

theorem exists_trimEnd_append (text : List Char) :
    ∃ after, IsBlankText after ∧ text = trimEnd text ++ after := by
  obtain ⟨before, blank, split⟩ := exists_append_trimStart text.reverse
  refine ⟨before.reverse, fun c member => blank c (List.mem_reverse.1 member), ?_⟩
  rw [trimEnd_eq_reverse, ← List.reverse_append, ← split, List.reverse_reverse]

/-- Only blanks are taken off the ends of a text. -/
theorem exists_append_trim (text : List Char) :
    ∃ before after, IsBlankText before ∧ IsBlankText after ∧
      text = before ++ (trim text ++ after) := by
  obtain ⟨before, beforeBlank, startSplit⟩ := exists_append_trimStart text
  obtain ⟨after, afterBlank, endSplit⟩ := exists_trimEnd_append (trimStart text)
  refine ⟨before, after, beforeBlank, afterBlank, ?_⟩
  rw [trim, ← endSplit, ← startSplit]

theorem isTrimmed_trim (text : List Char) : IsTrimmed (trim text) where
  first c isFirst := by
    obtain ⟨after, _, split⟩ := exists_trimEnd_append (trimStart text)
    apply head?_trimStart text c
    rw [trim, Option.mem_def] at isFirst
    rw [split, List.head?_append, isFirst]
    rfl
  last c isLast := by
    apply head?_trimStart (trimStart text).reverse c
    rwa [trim, trimEnd_eq_reverse, List.getLast?_reverse] at isLast

end Listings.Text
