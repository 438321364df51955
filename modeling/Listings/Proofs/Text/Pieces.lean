/-
This file states what cutting a text gives in terms of the text itself.
-/

import Listings.Text.Pieces
import Mathlib.Data.List.TakeWhile

namespace Listings.Text

theorem dropStart?_eq_some_iff {start text rest : List Char} :
    dropStart? start text = some rest ↔ text = start ++ rest := by
  induction start generalizing text with
  | nil => simp [dropStart?]
  | cons a start inductionHypothesis =>
      cases text with
      | nil => simp [dropStart?]
      | cons b text =>
          rw [dropStart?, List.cons_append, List.cons.injEq]
          split
          · rename_i same
            rw [inductionHypothesis, same]
            exact (and_iff_right rfl).symm
          · rename_i different
            simp [Ne.symm different]

theorem dropEnd?_eq_some_iff {last text rest : List Char} :
    dropEnd? last text = some rest ↔ text = rest ++ last := by
  rw [dropEnd?, Option.map_eq_some_iff]
  constructor
  · rintro ⟨reversed, dropped, rfl⟩
    rw [← List.reverse_inj, dropStart?_eq_some_iff.1 dropped, List.reverse_append,
      List.reverse_reverse]
  · rintro rfl
    exact ⟨rest.reverse, dropStart?_eq_some_iff.2 (List.reverse_append), List.reverse_reverse rest⟩

theorem getD_dropEnd?_append (last text : List Char) :
    (dropEnd? last (text ++ last)).getD (text ++ last) = text := by
  have dropped : dropEnd? last (text ++ last) = some text := dropEnd?_eq_some_iff.2 rfl
  rw [dropped, Option.getD_some]

theorem getD_dropEnd?_eq_self {last text : List Char} (unended : ¬ ∃ rest, text = rest ++ last) :
    (dropEnd? last text).getD text = text := by
  have notDropped : dropEnd? last text = none := by
    rw [Option.eq_none_iff_forall_ne_some]
    intro rest dropped
    exact unended ⟨rest, dropEnd?_eq_some_iff.1 dropped⟩
  rw [notDropped, Option.getD_none]

theorem dropFinalNewline_append (text : List Char) : dropFinalNewline (text ++ ['\n']) = text :=
  getD_dropEnd?_append ['\n'] text

theorem dropFinalNewline_eq_self {text : List Char} (unended : ¬ ∃ rest, text = rest ++ ['\n']) :
    dropFinalNewline text = text :=
  getD_dropEnd?_eq_self unended

theorem unwrap?_eq_some_iff {first last : Char} {text inner : List Char} :
    unwrap? first last text = some inner ↔ text = first :: inner ++ [last] := by
  cases text with
  | nil => simp [unwrap?]
  | cons c rest =>
      rw [unwrap?, List.cons_append, List.cons.injEq]
      by_cases same : c = first
      · rw [if_pos same, dropEnd?_eq_some_iff, and_iff_right same]
      · rw [if_neg same]
        exact iff_of_false nofun fun both => same both.1

/-- A text is cut at its first separator. -/
theorem cutAt?_append_cons {separates : Char → Bool} {before after : List Char} {stop : Char}
    (whole : ∀ c ∈ before, separates c = false) (stops : separates stop = true) :
    cutAt? separates (before ++ stop :: after) = some (before, after) := by
  have passes : ∀ c ∈ before, (!separates c) = true := by
    intro c member
    simp [whole c member]
  rw [cutAt?, List.dropWhile_append_of_pos passes, List.takeWhile_append_of_pos passes]
  simp [stops]

theorem exists_of_cutAt?_eq_some {separates : Char → Bool} {text before after : List Char}
    (found : cutAt? separates text = some (before, after)) :
    ∃ stop, separates stop = true ∧ (∀ c ∈ before, separates c = false) ∧
      text = before ++ stop :: after := by
  have whole := List.takeWhile_append_dropWhile (p := fun c => !separates c) (l := text)
  unfold cutAt? at found
  split at found
  · contradiction
  · rename_i stop rest dropped
    cases found
    have stops := List.head?_dropWhile_not (fun c => !separates c) text
    rw [dropped] at stops whole
    refine ⟨stop, by simpa using stops, ?_, whole.symm⟩
    intro c member
    simpa using List.mem_takeWhile_imp member

theorem cutAt?_eq_none_iff_forall {separates : Char → Bool} {text : List Char} :
    cutAt? separates text = none ↔ ∀ c ∈ text, separates c = false := by
  have passes : (text.dropWhile fun c => !separates c) = [] ↔ ∀ c ∈ text, separates c = false := by
    simp [List.dropWhile_eq_nil_iff]
  rw [← passes, cutAt?]
  split
  · rename_i dropped
    exact iff_of_true rfl dropped
  · rename_i dropped
    exact iff_of_false nofun (dropped ▸ List.cons_ne_nil _ _)

/-- A text is cut at the first of its separators. -/
theorem cutAt?_eq_some_iff {separator : Char} {text before after : List Char} :
    cutAt? (· == separator) text = some (before, after) ↔
      text = before ++ separator :: after ∧ separator ∉ before := by
  constructor
  · intro found
    obtain ⟨stop, stops, whole, rfl⟩ := exists_of_cutAt?_eq_some found
    rw [beq_iff_eq] at stops
    refine ⟨by rw [stops], fun member => ?_⟩
    simpa using whole separator member
  · rintro ⟨rfl, absent⟩
    have whole : ∀ c ∈ before, (c == separator) = false := by
      intro c member
      have different : c ≠ separator := fun same => absent (same ▸ member)
      simpa using different
    exact cutAt?_append_cons whole (beq_self_eq_true separator)

theorem cutAt?_eq_none_iff {separator : Char} {text : List Char} :
    cutAt? (· == separator) text = none ↔ separator ∉ text := by
  simp only [cutAt?_eq_none_iff_forall, beq_eq_false_iff_ne]
  exact List.forall_mem_ne'

/-- A marker is found exactly where it stands in the text. -/
theorem isSome_cut?_iff {marker text : List Char} :
    (cut? marker text).isSome ↔ marker <:+: text := by
  induction text with
  | nil =>
      rw [List.infix_nil, cut?]
      cases marker <;> simp [dropStart?]
  | cons c rest inductionHypothesis =>
      rw [List.infix_cons_iff, ← inductionHypothesis, cut?]
      cases dropped : dropStart? marker (c :: rest) with
      | some after =>
          have starts := dropStart?_eq_some_iff.1 dropped
          exact iff_of_true rfl (Or.inl ⟨after, starts.symm⟩)
      | none =>
          have startsNot : ¬ marker <+: c :: rest := by
            rintro ⟨after, starts⟩
            rw [dropStart?_eq_some_iff.2 starts.symm] at dropped
            contradiction
          rw [or_iff_right startsNot]
          simp

theorem eq_append_of_cut? {marker text before after : List Char}
    (found : cut? marker text = some (before, after)) : text = before ++ marker ++ after := by
  induction text generalizing before with
  | nil =>
      obtain ⟨rest, dropped, same⟩ := Option.map_eq_some_iff.1 found
      cases same
      exact dropStart?_eq_some_iff.1 dropped
  | cons c rest inductionHypothesis =>
      rw [cut?] at found
      cases dropped : dropStart? marker (c :: rest) with
      | some after =>
          rw [dropped] at found
          cases found
          exact dropStart?_eq_some_iff.1 dropped
      | none =>
          rw [dropped] at found
          obtain ⟨sides, cutRest, same⟩ := Option.map_eq_some_iff.1 found
          cases same
          rw [inductionHypothesis cutRest]
          rfl

/-- A text is cut at the first place of a marker. -/
theorem length_le_of_cut? {marker text before after earlier rest : List Char}
    (found : cut? marker text = some (before, after)) (stands : text = earlier ++ marker ++ rest) :
    before.length ≤ earlier.length := by
  induction text generalizing before earlier with
  | nil =>
      obtain ⟨more, _, same⟩ := Option.map_eq_some_iff.1 found
      cases same
      exact Nat.zero_le _
  | cons c more inductionHypothesis =>
      rw [cut?] at found
      cases dropped : dropStart? marker (c :: more) with
      | some after =>
          rw [dropped] at found
          cases found
          exact Nat.zero_le _
      | none =>
          rw [dropped] at found
          obtain ⟨sides, cutMore, same⟩ := Option.map_eq_some_iff.1 found
          cases same
          cases earlier with
          | nil =>
              have starts : dropStart? marker (c :: more) = some rest :=
                dropStart?_eq_some_iff.2 stands
              rw [dropped] at starts
              contradiction
          | cons first others =>
              have standsBehind := (List.cons.inj stands).2
              exact Nat.succ_le_succ (inductionHypothesis cutMore standsBehind)

/-- A text is cut at a marker if nothing before it looks like its start. -/
theorem cut?_append {first : Char} {before : List Char} (absent : first ∉ before)
    (marker after : List Char) :
    cut? (first :: marker) (before ++ first :: (marker ++ after)) = some (before, after) := by
  induction before with
  | nil =>
      have dropped : dropStart? (first :: marker) (first :: (marker ++ after)) = some after :=
        dropStart?_eq_some_iff.2 rfl
      rw [List.nil_append, cut?, dropped]
  | cons c rest inductionHypothesis =>
      obtain ⟨different, absentRest⟩ := List.ne_and_not_mem_of_not_mem_cons absent
      have notDropped : ∀ more, dropStart? (first :: marker) (c :: more) = none :=
        fun more => if_neg different
      rw [List.cons_append, cut?, notDropped, inductionHypothesis absentRest]
      rfl

theorem pieces_ne_nil (separates : Char → Bool) (text : List Char) :
    pieces separates text ≠ [] := by
  cases text with
  | nil => exact List.cons_ne_nil [] []
  | cons c rest =>
      rw [pieces]
      split
      · exact List.cons_ne_nil _ _
      · split <;> exact List.cons_ne_nil _ _

theorem join_cons (separator piece : List Char) {more : List (List Char)} (another : more ≠ []) :
    join separator (piece :: more) = piece ++ separator ++ join separator more := by
  cases more with
  | nil => contradiction
  | cons next rest => rfl

/-- There is one piece more than there are separators. -/
theorem length_pieces (separator : Char) (text : List Char) :
    (pieces (· == separator) text).length = text.count separator + 1 := by
  induction text with
  | nil => rfl
  | cons c rest inductionHypothesis =>
      rw [pieces, List.count_cons]
      split
      · rw [List.length_cons, inductionHypothesis]
      · rw [Nat.add_zero, ← inductionHypothesis]
        have notEmpty := pieces_ne_nil (· == separator) rest
        obtain ⟨first, more, cut⟩ := List.exists_cons_of_ne_nil notEmpty
        rw [cut]
        rfl

/-- Nothing is lost where a text is cut at one character. -/
theorem join_pieces (separator : Char) (text : List Char) :
    join [separator] (pieces (· == separator) text) = text := by
  induction text with
  | nil => rfl
  | cons c rest inductionHypothesis =>
      have another := pieces_ne_nil (· == separator) rest
      rw [pieces]
      split
      · rename_i separates
        rw [join_cons _ _ another, inductionHypothesis, beq_iff_eq.1 separates]
        rfl
      · cases cut : pieces (· == separator) rest with
        | nil => contradiction
        | cons first more =>
            rw [cut] at inductionHypothesis
            dsimp only
            rw [← inductionHypothesis]
            cases more <;> rfl

/-- Cutting a text into pieces is splitting it as a list. -/
theorem pieces_eq_splitOnP (separates : Char → Bool) (text : List Char) :
    pieces separates text = text.splitOnP separates := by
  induction text with
  | nil => rfl
  | cons c rest inductionHypothesis =>
      rw [pieces, List.splitOnP_cons_eq_if_modifyHead, ← inductionHypothesis]
      split
      · rfl
      · obtain ⟨first, more, cut⟩ := List.exists_cons_of_ne_nil (pieces_ne_nil separates rest)
        rw [cut]
        rfl

variable {separates : Char → Bool} {piece : List Char}

theorem pieces_eq_singleton (whole : ∀ c ∈ piece, separates c = false) :
    pieces separates piece = [piece] := by
  induction piece with
  | nil => rfl
  | cons c rest inductionHypothesis =>
      have wholeRest := inductionHypothesis fun d inRest => whole d (by simp [inRest])
      simp [pieces, whole c (by simp), wholeRest]

/-- What stands before a separator is cut into pieces by itself, and so is what stands after it. -/
theorem pieces_append_stop {stop : Char} (stops : separates stop = true) (text rest : List Char) :
    pieces separates (text ++ stop :: rest) = pieces separates text ++ pieces separates rest := by
  simp only [pieces_eq_splitOnP]
  exact List.splitOnP_append_cons text rest stops

/-- A separator ends the piece before it. -/
theorem pieces_append_cons (whole : ∀ c ∈ piece, separates c = false) {stop : Char}
    (stops : separates stop = true) (rest : List Char) :
    pieces separates (piece ++ stop :: rest) = piece :: pieces separates rest := by
  rw [pieces_append_stop stops, pieces_eq_singleton whole]
  rfl

theorem whole_of_mem_pieces {text : List Char} (member : piece ∈ pieces separates text) :
    ∀ c ∈ piece, separates c = false := by
  induction text generalizing piece with
  | nil => simp_all [pieces]
  | cons c rest inductionHypothesis =>
      rw [pieces] at member
      cases stops : separates c with
      | true =>
          simp only [stops, if_true, List.mem_cons] at member
          obtain rfl | inRest := member
          · simp
          · exact inductionHypothesis inRest
      | false =>
          obtain ⟨first, more, cut⟩ := List.exists_cons_of_ne_nil (pieces_ne_nil separates rest)
          have wholeFirst : ∀ d ∈ first, separates d = false :=
            inductionHypothesis (cut ▸ List.mem_cons_self)
          simp only [stops, cut, Bool.false_eq_true, if_false, List.mem_cons] at member
          obtain rfl | inMore := member
          · simpa [stops] using wholeFirst
          · exact inductionHypothesis (cut ▸ List.mem_cons_of_mem first inMore)

theorem not_mem_of_mem_pieces {separator : Char} {text : List Char}
    (member : piece ∈ pieces (· == separator) text) : separator ∉ piece := by
  intro inPiece
  have whole := whole_of_mem_pieces member separator inPiece
  simp at whole

/-- There are two pieces exactly where there is one separator. -/
theorem pieces_eq_pair_iff {separator : Char} {text first second : List Char} :
    pieces (· == separator) text = [first, second] ↔
      text = first ++ separator :: second ∧ separator ∉ first ∧ separator ∉ second := by
  constructor
  · intro cut
    have joined := join_pieces separator text
    have absent : ∀ piece ∈ [first, second], separator ∉ piece :=
      fun piece inPieces => not_mem_of_mem_pieces (cut ▸ inPieces)
    rw [cut, join_cons _ _ (by simp), List.append_assoc, List.singleton_append] at joined
    exact ⟨joined.symm, absent first (by simp), absent second (by simp)⟩
  · rintro ⟨rfl, firstFree, secondFree⟩
    have whole : ∀ {piece : List Char}, separator ∉ piece →
        ∀ c ∈ piece, (c == separator) = false := by
      intro piece absent c member
      exact beq_eq_false_iff_ne.2 fun same => absent (same ▸ member)
    rw [pieces_append_cons (whole firstFree) (beq_self_eq_true separator),
      pieces_eq_singleton (whole secondFree)]

/-- Nothing blank stands at either end of a text. -/
structure IsTrimmed (text : List Char) : Prop where
  first : ∀ c ∈ text.head?, isBlank c = false
  last : ∀ c ∈ text.getLast?, isBlank c = false

theorem isTrimmed_nil : IsTrimmed [] := ⟨nofun, nofun⟩

theorem trimStart_eq_self {text : List Char} (first : ∀ c ∈ text.head?, isBlank c = false) :
    trimStart text = text := by
  cases text with
  | nil => rfl
  | cons c rest =>
      have visible := first c rfl
      exact List.dropWhile_cons_of_neg (by simp [visible])

theorem trimEnd_eq_reverse (text : List Char) : trimEnd text = (trimStart text.reverse).reverse :=
  rfl

/-- A word has characters, and none of them is blank. -/
def IsWord (word : List Char) : Prop := word ≠ [] ∧ ∀ c ∈ word, isBlank c = false

theorem IsWord.isTrimmed {word : List Char} (isWord : IsWord word) : IsTrimmed word where
  first c isFirst := isWord.2 c (List.mem_of_mem_head? isFirst)
  last c isLast := isWord.2 c (List.mem_of_mem_getLast? isLast)

/-- A text that begins with a word does not begin with a blank. -/
theorem IsWord.first_append {word : List Char} (isWord : IsWord word) (rest : List Char) :
    ∀ c ∈ (word ++ rest).head?, isBlank c = false := by
  intro c isFirst
  obtain ⟨letter, letters, isCons⟩ := List.exists_cons_of_ne_nil isWord.1
  apply isWord.isTrimmed.first c
  rw [isCons] at isFirst ⊢
  exact isFirst

theorem isWord_of_mem_words {word text : List Char} (member : word ∈ words text) :
    IsWord word := by
  obtain ⟨inPieces, nonempty⟩ := List.mem_filter.1 member
  exact ⟨by simpa using nonempty, whole_of_mem_pieces inPieces⟩

/-- No word goes over a blank. -/
theorem words_append_stop {stop : Char} (stops : isBlank stop = true) (text rest : List Char) :
    words (text ++ stop :: rest) = words text ++ words rest := by
  rw [words, pieces_append_stop stops, List.filter_append]
  rfl

theorem words_eq_singleton {word : List Char} (isWord : IsWord word) : words word = [word] := by
  rw [words, pieces_eq_singleton isWord.2, List.filter_cons_of_pos (by simpa using isWord.1)]
  rfl

/-- Words with spaces between them can be told apart again. -/
theorem words_join {list : List (List Char)} (areWords : ∀ word ∈ list, IsWord word) :
    words (join [' '] list) = list := by
  induction list with
  | nil => rfl
  | cons word rest inductionHypothesis =>
      have isWord := areWords word (by simp)
      have others := inductionHypothesis fun other inRest => areWords other (by simp [inRest])
      cases rest with
      | nil => exact words_eq_singleton isWord
      | cons next more =>
          rw [join_cons _ _ (by simp), List.append_assoc, List.singleton_append,
            words_append_stop (by decide), words_eq_singleton isWord, others]
          rfl

end Listings.Text
