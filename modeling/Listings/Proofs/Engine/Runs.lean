/-
This file says what the engine of keywords makes of a text: its lines, and of each line the single
spaces and the runs between them.
-/

import Listings.Proofs.Engine.Lossless
import Mathlib.Data.List.Chain

namespace Listings.Keyword

/-- A part of a text without spaces that is as long as it can be: what is before it ends with a
space, and what is after it begins with one. -/
structure IsRun (before run after : List Char) : Prop where
  nonempty : run ≠ []
  unbroken : ' ' ∉ run
  begins : ∀ c ∈ before.getLast?, c = ' '
  ends : ∀ c ∈ after.head?, c = ' '

/-- The fragment of a word that is not empty. -/
def wordFragment (language content : String) : Fragment :=
  if keywords.contains content then
    fragment language content (some keywordColor) { bold := true } (some "keyword.other")
  else fragment language content none {} none

variable {language content : String}

/-- The fragment has the color, the style and the scopes of a keyword. -/
def LooksLikeKeyword (language : String) (fragment : Fragment) : Prop :=
  fragment.color = some keywordColor ∧ fragment.style = { bold := true } ∧
    fragment.parts = [⟨fragment.content, ["source." ++ language, "keyword.other"]⟩]

/-- The fragment has no color, no style and no scope but that of the language. -/
def LooksPlain (language : String) (fragment : Fragment) : Prop :=
  fragment.color = none ∧ fragment.style = {} ∧
    fragment.parts = [⟨fragment.content, ["source." ++ language]⟩]

theorem LooksPlain.not_keyword {fragment : Fragment} (plain : LooksPlain language fragment) :
    ¬ LooksLikeKeyword language fragment := by
  rintro ⟨colored, _⟩
  rw [plain.1] at colored
  contradiction

/-- A fragment that looks like what it is has one sub-token, in the scope of its language. -/
theorem looks_iff {fragment : Fragment} {isKeyword : Prop}
    (look : isKeyword ∧ LooksLikeKeyword language fragment ∨
      ¬ isKeyword ∧ LooksPlain language fragment) :
    (∃ part, fragment.parts = [part] ∧ part.content = fragment.content ∧
      part.scopes.head? = some ("source." ++ language)) ∧
    (LooksLikeKeyword language fragment ↔ isKeyword) ∧
    (LooksPlain language fragment ↔ ¬ isKeyword) := by
  obtain ⟨keyword, colored⟩ | ⟨other, plain⟩ := look
  · exact ⟨⟨_, colored.2.2, rfl, rfl⟩, iff_of_true colored keyword,
      iff_of_false (fun plain => plain.not_keyword colored) (not_not_intro keyword)⟩
  · exact ⟨⟨_, plain.2.2, rfl, rfl⟩, iff_of_false plain.not_keyword other, iff_of_true plain other⟩

theorem looksPlain_space : LooksPlain language (space language) := ⟨rfl, rfl, rfl⟩

theorem look_wordFragment (language content : String) :
    content ∈ keywords ∧ LooksLikeKeyword language (wordFragment language content) ∨
      content ∉ keywords ∧ LooksPlain language (wordFragment language content) := by
  unfold wordFragment
  split
  · rename_i isKeyword
    exact .inl ⟨List.contains_iff_mem.1 isKeyword, rfl, rfl, rfl⟩
  · rename_i other
    exact .inr ⟨mt List.contains_iff_mem.2 other, rfl, rfl, rfl⟩

theorem content_space : (space language).content = " " := rfl

theorem content_wordFragment : (wordFragment language content).content = content := by
  unfold wordFragment
  split <;> rfl

theorem word_of_ne_nil {text : List Char} (nonempty : text ≠ []) :
    word language text = [wordFragment language (String.ofList text)] := by
  unfold word wordFragment
  dsimp only
  rw [if_neg (by simpa using nonempty)]
  split <;> rfl

theorem wordFragment_ne_space {text : List Char} (unbroken : ' ' ∉ text) (language : String) :
    wordFragment language (String.ofList text) ≠ space language := by
  intro same
  have sameText : text = [' '] := by
    have contents := congrArg (fun fragment => fragment.content.toList) same
    rw [content_wordFragment, String.toList_ofList, content_space] at contents
    simpa using contents
  exact unbroken (sameText ▸ List.mem_singleton_self ' ')

theorem mem_word {text : List Char} {fragment : Fragment} :
    fragment ∈ word language text ↔
      text ≠ [] ∧ fragment = wordFragment language (String.ofList text) := by
  by_cases nonempty : text = []
  · rw [nonempty]
    exact iff_of_false List.not_mem_nil fun both => both.1 rfl
  · rw [word_of_ne_nil nonempty, List.mem_singleton, and_iff_right nonempty]

/-- A line consists of single spaces and words. -/
theorem eq_of_mem_spaced {words : List (List Char)} {fragment : Fragment}
    (member : fragment ∈ spaced language words) :
    fragment = space language ∨
      ∃ text ∈ words, text ≠ [] ∧ fragment = wordFragment language (String.ofList text) := by
  induction words with
  | nil => contradiction
  | cons first rest inductionHypothesis =>
      have ofWord : fragment ∈ word language first →
          ∃ text ∈ first :: rest, text ≠ [] ∧
            fragment = wordFragment language (String.ofList text) :=
        fun inFirst => ⟨first, List.mem_cons_self, mem_word.1 inFirst⟩
      cases rest with
      | nil =>
          rw [spaced, List.flatMap_nil, List.append_nil] at member
          exact .inr (ofWord member)
      | cons next more =>
          rw [spaced_cons_cons, List.mem_append, List.mem_cons] at member
          obtain inFirst | isSpace | inRest := member
          · exact .inr (ofWord inFirst)
          · exact .inl isSpace
          · refine (inductionHypothesis inRest).imp_right ?_
            rintro ⟨text, inWords, isWord⟩
            exact ⟨text, List.mem_cons_of_mem first inWords, isWord⟩

theorem isChain_word (holds : Fragment → Fragment → Prop) (text : List Char) :
    (word language text).IsChain holds := by
  by_cases nonempty : text = []
  · rw [nonempty]
    exact List.isChain_nil
  · rw [word_of_ne_nil nonempty]
    exact List.isChain_singleton _

/-- Of any two neighbours in a line one is a space. -/
theorem isChain_spaced (language : String) (words : List (List Char)) :
    (spaced language words).IsChain fun first second =>
      first = space language ∨ second = space language := by
  induction words with
  | nil => exact List.isChain_nil
  | cons first rest inductionHypothesis =>
      cases rest with
      | nil =>
          rw [spaced, List.flatMap_nil, List.append_nil]
          exact isChain_word _ first
      | cons next more =>
          rw [spaced_cons_cons]
          refine List.isChain_append.2 ⟨isChain_word _ first, ?_, ?_⟩
          · exact List.isChain_cons.2 ⟨fun _ _ => .inl rfl, inductionHypothesis⟩
          · intro last _ other isSpace
            exact .inr (Option.mem_some.1 isSpace).symm

theorem getLast?_text_of_space {line : Line}
    (isSpace : ∀ last ∈ line.getLast?, last = space language) :
    ∀ c ∈ line.text.getLast?, c = ' ' := by
  rcases List.eq_nil_or_concat line with rfl | ⟨front, last, rfl⟩
  · nofun
  · obtain rfl := isSpace last (by simp)
    intro c isLast
    simpa [Line.text_append, Line.text, content_space, eq_comm] using isLast

theorem head?_text_of_space {line : Line}
    (isSpace : ∀ first ∈ line.head?, first = space language) :
    ∀ c ∈ line.text.head?, c = ' ' := by
  cases line with
  | nil => nofun
  | cons first rest =>
      obtain rfl := isSpace first rfl
      intro c isFirst
      rw [text_space_cons] at isFirst
      exact (Option.mem_some.1 isFirst).symm

/-- Of a line cut at all of its spaces every fragment is a space or a run with its look. -/
theorem cases_of_spaced {words : List (List Char)} (unbroken : ∀ text ∈ words, ' ' ∉ text)
    {earlier later : Line} {fragment : Fragment}
    (cut : spaced language words = earlier ++ fragment :: later) :
    fragment = space language ∨
      IsRun earlier.text fragment.content.toList later.text ∧
        fragment = wordFragment language fragment.content := by
  have member : fragment ∈ spaced language words := by
    rw [cut]
    exact List.mem_append_right earlier List.mem_cons_self
  refine (eq_of_mem_spaced member).imp_right ?_
  rintro ⟨text, inWords, nonempty, rfl⟩
  have notSpace := wordFragment_ne_space (unbroken text inWords) language
  have chain := isChain_spaced language words
  rw [cut, List.isChain_append, List.isChain_cons] at chain
  obtain ⟨_, ⟨followed, _⟩, preceded⟩ := chain
  rw [content_wordFragment, String.toList_ofList]
  refine ⟨⟨nonempty, unbroken text inWords, ?_, ?_⟩, rfl⟩
  · exact getLast?_text_of_space fun last isLast =>
      (preceded last isLast _ rfl).resolve_right notSpace
  · exact head?_text_of_space fun first isFirst => (followed first isFirst).resolve_left notSpace

theorem exists_palette {theme : String} (known : theme ∈ palettes.map Palette.name) :
    ∃ found, palette theme = .ok found := by
  obtain ⟨known, member, isName⟩ := List.mem_map.1 known
  have there : (palettes.find? fun palette => palette.name == theme).isSome = true :=
    List.find?_isSome.2 ⟨known, member, beq_iff_eq.2 isName⟩
  obtain ⟨found, isFound⟩ := Option.isSome_iff_exists.1 there
  exact ⟨found, by rw [palette, isFound]⟩

theorem tokenize_of_known {theme : String} (known : theme ∈ palettes.map Palette.name)
    (text language : String) :
    engine.tokenize text language theme =
      .ok ((Text.lines text.toList).map (tokenizeLine language)) := by
  obtain ⟨found, isFound⟩ := exists_palette known
  change tokenize text language theme = _
  rw [tokenize, isFound]
  rfl

theorem lines_append_newline (text : List Char) :
    Text.lines (text ++ ['\n']) = Text.lines text ++ [[]] :=
  @Text.pieces_append_stop (· == '\n') '\n' rfl text []

/-- The engine gives back every line of a text, cut into its single spaces and the longest runs
between them. The runs that are keywords look like keywords, and nothing else does. -/
theorem tokenize_cuts_into_spaces_and_runs {theme : String}
    (known : theme ∈ palettes.map Palette.name) (text language : String) :
    ∃ lines, engine.tokenize text language theme = .ok lines ∧
      lines.map Line.text = Text.lines text.toList ∧
      lines.length = text.toList.count '\n' + 1 ∧
      Text.join ['\n'] (lines.map Line.text) = text.toList ∧
      (∀ line ∈ lines, '\n' ∉ line.text) ∧
      (∀ before, text = before ++ "\n" → lines.getLast? = some []) ∧
      ∀ line ∈ lines, ∀ earlier fragment later, line = earlier ++ fragment :: later →
        let isRun := IsRun (Line.text earlier) fragment.content.toList (Line.text later)
        fragment.content ≠ "" ∧ (fragment.content = " " ∨ isRun) ∧
        (∃ part, fragment.parts = [part] ∧ part.content = fragment.content ∧
          part.scopes.head? = some ("source." ++ language)) ∧
        (LooksLikeKeyword language fragment ↔ isRun ∧ fragment.content ∈ keywords) ∧
        (LooksPlain language fragment ↔ ¬ (isRun ∧ fragment.content ∈ keywords)) := by
  have tokenizes := tokenize_of_known known text language
  have kept := lossless_engine text language theme _ tokenizes
  refine ⟨_, tokenizes, kept, ?_, ?_, ?_, ?_, ?_⟩
  · rw [List.length_map, Text.lines, Text.length_pieces]
  · rw [kept, Text.lines, Text.join_pieces]
  · intro line member
    have inLines : line.text ∈ Text.lines text.toList := kept ▸ List.mem_map_of_mem member
    exact Text.not_mem_of_mem_pieces inLines
  · rintro before rfl
    have newline : (before ++ "\n").toList = before.toList ++ ['\n'] := by simp
    rw [newline, lines_append_newline, List.map_append, List.map_singleton, List.getLast?_concat]
    rfl
  · intro line member earlier fragment later cut isRun
    obtain ⟨piece, _, rfl⟩ := List.mem_map.1 member
    obtain isSpace | ⟨run, isWord⟩ := cases_of_spaced (fun _ => Text.not_mem_of_mem_pieces) cut
    · have content : fragment.content = " " := congrArg Fragment.content isSpace
      have other : ¬ (isRun ∧ fragment.content ∈ keywords) := by
        rw [content]
        exact fun both => absurd both.2 (by decide)
      refine ⟨by rw [content]; decide, .inl content, looks_iff (.inr ⟨other, ?_⟩)⟩
      exact isSpace ▸ looksPlain_space
    · have filled : fragment.content ≠ "" := by
        intro empty
        exact run.nonempty (by rw [empty]; rfl)
      refine ⟨filled, .inr run, looks_iff ?_⟩
      rw [and_iff_right run, isWord, content_wordFragment]
      exact look_wordFragment language fragment.content

theorem tokenize_cuts_into_spaces_and_runs_of_indented_line :
    let line : Line :=
      [space "c", space "c", wordFragment "c" "fn", space "c", wordFragment "c" "fnord"]
    engine.tokenize "  fn fnord\n" "c" "dark" = .ok [line, []] ∧
      Line.text line = "  fn fnord".toList ∧
      IsRun "  ".toList "fn".toList " fnord".toList ∧
      LooksLikeKeyword "c" (wordFragment "c" "fn") ∧ LooksPlain "c" (wordFragment "c" "fnord") := by
  intro line
  have known : "dark" ∈ palettes.map Palette.name := by decide
  obtain ⟨lines, tokenizes, kept, _, _, _, _, pieces⟩ :=
    tokenize_cuts_into_spaces_and_runs known "  fn fnord\n" "c"
  have concrete : engine.tokenize "  fn fnord\n" "c" "dark" = .ok [line, []] := rfl
  cases concrete.symm.trans tokenizes
  have first : line ∈ [line, []] := List.mem_cons_self
  obtain ⟨_, _, _, keyword, _⟩ := pieces line first [space "c", space "c"] (wordFragment "c" "fn")
    [space "c", wordFragment "c" "fnord"] rfl
  obtain ⟨_, _, _, _, plain⟩ := pieces line first
    [space "c", space "c", wordFragment "c" "fn", space "c"] (wordFragment "c" "fnord") [] rfl
  have looks : LooksLikeKeyword "c" (wordFragment "c" "fn") := ⟨rfl, rfl, rfl⟩
  exact ⟨concrete, (List.cons.inj kept).1, (keyword.1 looks).1, looks,
    plain.2 fun both => absurd both.2 (by decide)⟩

end Listings.Keyword
