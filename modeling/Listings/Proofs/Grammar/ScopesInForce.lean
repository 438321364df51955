/-
This file shows that every byte of a text has the scopes that are in force where it stands, and
looks as they do.
-/

import Listings.Engine.Grammars
import Listings.Proofs.Grammar.Cutting

namespace Listings

namespace Scoping

variable {State Stack Change : Type} {scoping : Scoping State Stack Change} {look : Stack → Look}

/-- A sub-token with these scopes, and a fragment around it that looks as they do. -/
def Shows (scoping : Scoping State Stack Change) (look : Stack → Look) (stack : Stack)
    (styled : StyledPart) : Prop :=
  styled.part.scopes = scoping.names stack ∧ styled.color = some (look stack).color.text ∧
    styled.style = (look stack).style

/-- The line has some content, cut into fragments that show the scopes in force at each byte. -/
structure StyledAs (scoping : Scoping State Stack Change) (look : Stack → Look)
    (inForce : Nat → Except TokenizeError Stack) (content : List Char) (line : Line) : Prop where
  text : line.text = content
  whole : ∀ fragment ∈ line, fragment.IsWhole
  scopes : Spans StyledPart.bytes
    (fun byte styled => ∃ stack, inForce byte = .ok stack ∧ scoping.Shows look stack styled) 0
    line.styled

theorem isWhole_fragment (piece : ScopedPiece Stack) : (scoping.fragment look piece).IsWhole := by
  simp [Fragment.IsWhole, fragment, part]

theorem text_fragments (pieces : List (ScopedPiece Stack)) :
    Line.text (pieces.map (scoping.fragment look)) = pieces.flatMap ScopedPiece.content := by
  rw [Line.text, List.flatMap_map]
  exact congrArg (List.flatMap · pieces) (funext fun piece => String.toList_ofList)

/-- The styled sub-token that a piece becomes. -/
def styledPart (scoping : Scoping State Stack Change) (look : Stack → Look)
    (piece : ScopedPiece Stack) : StyledPart :=
  ⟨some (look piece.stack).color.text, (look piece.stack).style, scoping.part piece⟩

theorem styled_fragments (pieces : List (ScopedPiece Stack)) :
    Line.styled (pieces.map (scoping.fragment look)) = pieces.map (scoping.styledPart look) := by
  induction pieces with
  | nil => rfl
  | cons piece rest inductionHypothesis =>
      exact congrArg (scoping.styledPart look piece :: ·) inductionHypothesis

/-- The line that pieces become has their text, each as a sub-token of its own. -/
theorem joinAlike_fragments (scoping : Scoping State Stack Change) (look : Stack → Look)
    (pieces : List (ScopedPiece Stack)) :
    (∀ fragment ∈ Fragment.joinAlike (pieces.map (scoping.fragment look)), fragment.IsWhole) ∧
      Line.styled (Fragment.joinAlike (pieces.map (scoping.fragment look))) =
        pieces.map (scoping.styledPart look) ∧
      Line.text (Fragment.joinAlike (pieces.map (scoping.fragment look))) =
        pieces.flatMap ScopedPiece.content := by
  rw [← styled_fragments, ← text_fragments]
  apply Fragment.joinAlike_spec
  intro fragment member
  obtain ⟨piece, _, rfl⟩ := List.mem_map.1 member
  exact isWhole_fragment piece

theorem bytes_styledPart (piece : ScopedPiece Stack) :
    (scoping.styledPart look piece).bytes = piece.bytes := by
  simp [styledPart, StyledPart.bytes, SubToken.bytes, part, ScopedPiece.bytes]

/-- One line. -/
theorem styledAs_of_styleLine {stack last : Stack} {changes : List (Placed Change)}
    {content : List Char} {line : Line}
    (styles : scoping.styleLine look stack changes content = .ok (line, last))
    (inOrder : InOrder changes (content ++ ['\n'])) :
    scoping.StyledAs look (fun byte => scoping.applyAll stack (upTo byte changes)) content line ∧
      scoping.applyAll stack changes = .ok last := by
  obtain ⟨⟨pieces, _⟩, cuts, done⟩ := bind_eq_ok_iff.1 styles
  cases done
  obtain ⟨spans, contents, applied⟩ := spans_of_cut cuts (Text.isBoundary_zero content)
    inOrder.ascending (fun placed member => Text.isBoundary_min (inOrder.boundaries placed member))
    (fun placed _ => Nat.zero_le _)
  obtain ⟨whole, styled, text⟩ := joinAlike_fragments scoping look pieces
  refine ⟨⟨?_, whole, ?_⟩, applied⟩
  · rw [text, contents, Text.slice_zero_byteLength]
  · have sameBytes : (fun piece => (scoping.styledPart look piece).bytes) = ScopedPiece.bytes :=
      funext bytes_styledPart
    rw [styled, spans_map, sameBytes]
    exact spans.imp fun byte piece _ _ applied => ⟨piece.stack, applied, rfl, rfl, rfl⟩

/-- A line as the changes are looked for in it. -/
def lineRead (line : List Char) : List Char := lineContent line ++ ['\n']

/-- The changes that are found in lines one after the other. -/
def readLines (scoping : Scoping State Stack Change) :
    State → List (List Char) → Except TokenizeError (List (List (Placed Change)))
  | _, [] => .ok []
  | state, line :: lines => do
      let (changes, state) ← scoping.readLine state (lineRead line)
      let others ← scoping.readLines state lines
      pure (changes :: others)

/-- The changes in all earlier lines, and those in the line up to a byte. -/
def before (changes : List (List (Placed Change))) (index byte : Nat) : List (Placed Change) :=
  (changes.take index).flatten ++ upTo byte (changes[index]?.getD [])

theorem before_cons_succ (first : List (Placed Change)) (rest : List (List (Placed Change)))
    (index byte : Nat) :
    before (first :: rest) (index + 1) byte = first ++ before rest index byte :=
  List.append_assoc _ _ _

/-- The scopes at the end of a line are in force at the start of the next. -/
theorem styledAs_of_tokenizeLines {state : State} {stack : Stack} {texts : List (List Char)}
    {lines : List Line} (tokenizes : scoping.tokenizeLines look state stack texts = .ok lines)
    (inOrder : ∀ changes, scoping.readLines state texts = .ok changes →
      List.Forall₂ InOrder changes (texts.map lineRead)) :
    ∃ changes, scoping.readLines state texts = .ok changes ∧ lines.length = texts.length ∧
      ∀ index line text, lines[index]? = some line → texts[index]? = some text →
        scoping.StyledAs look (fun byte => scoping.applyAll stack (before changes index byte))
          (lineContent text) line := by
  -- The stack is that of all lines before, so what is in force further on does not start over.
  induction texts generalizing state stack lines with
  | nil =>
      cases tokenizes
      exact ⟨[], rfl, rfl, fun index line text found => nomatch found⟩
  | cons text rest inductionHypothesis =>
      obtain ⟨⟨changes, nextState⟩, reads, further⟩ := bind_eq_ok_iff.1 tokenizes
      obtain ⟨⟨line, nextStack⟩, styles, last⟩ := bind_eq_ok_iff.1 further
      obtain ⟨more, tokenizesRest, done⟩ := bind_eq_ok_iff.1 last
      cases done
      have readsAll : ∀ others, scoping.readLines nextState rest = .ok others →
          scoping.readLines state (text :: rest) = .ok (changes :: others) := by
        intro others readsRest
        rw [readLines, lineRead, reads]
        change (scoping.readLines nextState rest >>= _) = _
        rw [readsRest]
        rfl
      have inOrderRest : ∀ others, scoping.readLines nextState rest = .ok others →
          List.Forall₂ InOrder others (rest.map lineRead) := fun others readsRest =>
        (List.forall₂_cons.1 (inOrder _ (readsAll others readsRest))).2
      obtain ⟨others, readsRest, sameLength, styledRest⟩ :=
        inductionHypothesis tokenizesRest inOrderRest
      have inOrderFirst : InOrder changes (lineRead text) :=
        (List.forall₂_cons.1 (inOrder _ (readsAll others readsRest))).1
      obtain ⟨styledFirst, applied⟩ := styledAs_of_styleLine styles inOrderFirst
      refine ⟨changes :: others, readsAll others readsRest, congrArg (· + 1) sameLength, ?_⟩
      intro index otherLine otherText isLine isText
      cases index with
      | zero =>
          cases isLine
          cases isText
          exact styledFirst
      | succ index =>
          have styled := styledRest index otherLine otherText isLine isText
          have sameScopes : ∀ byte,
              scoping.applyAll stack (before (changes :: others) (index + 1) byte) =
                scoping.applyAll nextStack (before others index byte) := by
            intro byte
            rw [before_cons_succ, applyAll_append applied]
          simpa only [sameScopes] using styled

theorem total_bytes_eq (line : Line) :
    total Fragment.bytes line = Text.byteLength line.text := by
  induction line with
  | nil => rfl
  | cons fragment rest inductionHypothesis =>
      rw [total_cons, inductionHypothesis, Line.text, Line.text, List.flatMap_cons,
        Text.byteLength_append]
      rfl

/-- What belongs to a byte of a styled line stands within its content. -/
theorem lt_of_covers {line : Line} {byte : Nat} {place : Nat × Nat} {fragment : Fragment}
    {part : SubToken} (whole : ∀ fragment ∈ line, fragment.IsWhole)
    (covers : line.Covers byte place fragment part) : byte < Text.byteLength line.text := by
  have fragmentWhole := whole fragment (List.mem_of_getElem? covers.hasFragment)
  obtain ⟨item, found, _, ends⟩ := covers.fragment_takesUp fragmentWhole
  have within : total Fragment.bytes (line.take (place.1 + 1)) ≤ total Fragment.bytes line :=
    total_take_le _ _
  rw [total_take_succ found] at within
  rw [← total_bytes_eq]
  omega

theorem tokenize_ok {looks : String → Except HighlightError (Stack → Look)}
    {text language theme : String} {lines : List Line}
    (tokenizes : scoping.tokenize looks text language theme = .ok lines) :
    ∃ state look, scoping.start? language = some state ∧ looks theme = .ok look ∧
      scoping.tokenizeLines look state scoping.outermost (Text.lines text.toList) = .ok lines := by
  unfold tokenize at tokenizes
  split at tokenizes
  · contradiction
  · rename_i state known
    obtain ⟨look, found, rest⟩ := bind_eq_ok_iff.1 tokenizes
    refine ⟨state, look, known, found, ?_⟩
    cases result : scoping.tokenizeLines look state scoping.outermost (Text.lines text.toList) with
    | error error =>
        rw [result] at rest
        contradiction
    | ok found =>
        rw [result] at rest
        cases rest
        rfl

/-- If changes are found in order, each byte of the content of a line belongs to one sub-token of
one fragment, and these show the stack that all changes of earlier lines and those of the line up to
the byte lead to. A change behind the content waits for the next line. -/
theorem tokenize_shows_scopes_in_force (scoping : Scoping State Stack Change)
    (looks : String → Except HighlightError (Stack → Look)) (text language theme : String)
    (lines : List Line) (tokenizes : scoping.tokenize looks text language theme = .ok lines)
    (inOrder : ∀ state changes, scoping.start? language = some state →
      scoping.readLines state (Text.lines text.toList) = .ok changes →
        List.Forall₂ InOrder changes ((Text.lines text.toList).map lineRead)) :
    ∃ state look changes, scoping.start? language = some state ∧ looks theme = .ok look ∧
      scoping.readLines state (Text.lines text.toList) = .ok changes ∧
      lines.length = (Text.lines text.toList).length ∧
      ∀ index line piece, lines[index]? = some line →
        (Text.lines text.toList)[index]? = some piece →
        line.text = lineContent piece ∧
        (∀ byte < Text.byteLength (lineContent piece),
          ∃! place : Nat × Nat, ∃ fragment part, line.Covers byte place fragment part) ∧
        ∀ byte place fragment part, line.Covers byte place fragment part →
          byte < Text.byteLength (lineContent piece) ∧
          ∃ stack, scoping.applyAll scoping.outermost (before changes index byte) = .ok stack ∧
            part.scopes = scoping.names stack ∧
            fragment.color = some (look stack).color.text ∧
            fragment.style = (look stack).style := by
  obtain ⟨state, look, known, found, tokenizesLines⟩ := tokenize_ok tokenizes
  obtain ⟨changes, reads, sameLength, styled⟩ :=
    styledAs_of_tokenizeLines tokenizesLines fun changes reads => inOrder state changes known reads
  refine ⟨state, look, changes, known, found, reads, sameLength, ?_⟩
  intro index line piece isLine isPiece
  have styledLine := styled index line piece isLine isPiece
  refine ⟨styledLine.text, ?_, ?_⟩
  · intro byte inside
    refine Line.existsUnique_covers styledLine.whole ?_
    rw [total_bytes_eq, styledLine.text]
    exact inside
  · intro byte place fragment part covers
    refine ⟨styledLine.text ▸ lt_of_covers styledLine.whole covers, ?_⟩
    exact covers.holds styledLine.whole styledLine.scopes

/-- A mark has its own scope besides that of the whole text. -/
theorem tokenize_shows_scopes_in_force_at_mark :
    ∃ grammar : Grammar, ∃ line rest,
      Grammars.tokenize [grammar] [("plain", {})] "é#" "marks" "plain" = .ok (line :: rest) ∧
        ∀ place fragment part, line.Covers 2 place fragment part →
          part.scopes = ["source", "mark"] := by
  let rule : GrammarRule := { pattern := .one (· == '#'), scopes := [⟨["mark"]⟩] }
  let grammar : Grammar :=
    { name := "Marks"
      extensions := ["marks"]
      scope := ⟨["source"]⟩
      contexts := [("main", { rules := [rule] })] }
  let scoping := Grammar.scoping (Grammar.find? [grammar])
  let found : List (Placed ScopeChange) :=
    [⟨0, .push ⟨["source"]⟩⟩, ⟨2, .push ⟨["mark"]⟩⟩, ⟨3, .pop 1⟩]
  have reads : scoping.readLines (grammar, .start grammar) (Text.lines "é#".toList) =
    .ok [found] := rfl
  obtain ⟨line, rest, tokenizes⟩ : ∃ line rest,
      Grammars.tokenize [grammar] [("plain", {})] "é#" "marks" "plain" = .ok (line :: rest) :=
    ⟨_, _, rfl⟩
  have boundaries : ∀ placed ∈ found, Text.IsBoundary placed.byte (lineRead "é#".toList) :=
    List.forall_mem_cons.2 ⟨⟨[], List.nil_prefix, rfl⟩,
      List.forall_mem_cons.2 ⟨⟨['é'], ⟨['#', '\n'], rfl⟩, rfl⟩,
        List.forall_mem_cons.2 ⟨⟨['é', '#'], ⟨['\n'], rfl⟩, rfl⟩, nofun⟩⟩⟩
  have inOrder : InOrder found (lineRead "é#".toList) := ⟨by decide, boundaries⟩
  refine ⟨grammar, line, rest, tokenizes, ?_⟩
  intro place fragment part covers
  obtain ⟨state, look, changes, known, _, readsState, _, shows⟩ :=
    tokenize_shows_scopes_in_force scoping (ThemeSet.look [("plain", {})]) "é#" "marks" "plain"
      (line :: rest) tokenizes (by
        intro state changes known readsState
        cases known
        obtain rfl := Except.ok.inj (reads.symm.trans readsState)
        exact .cons inOrder .nil)
  cases known
  obtain rfl := Except.ok.inj (reads.symm.trans readsState)
  obtain ⟨_, stack, applied, scopes, _⟩ :=
    (shows 0 line "é#".toList rfl rfl).2.2 2 place fragment part covers
  cases applied
  exact scopes

end Scoping

end Listings
