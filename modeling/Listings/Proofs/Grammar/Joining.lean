/-
This file shows that the fragments of a line are as long as they can be, and that nothing in them is
empty.
-/

import Listings.Proofs.Grammar.Stretches
import Mathlib.Data.List.Chain

namespace Listings

namespace Fragment

/-- The fragment has a color and the text of its sub-tokens, none of which is empty. -/
structure IsFilled (fragment : Fragment) : Prop where
  color : fragment.color.isSome
  hasParts : fragment.parts ≠ []
  filled : ∀ part ∈ fragment.parts, part.content ≠ ""
  whole : fragment.IsWhole

theorem IsFilled.content_ne {fragment : Fragment} (isFilled : fragment.IsFilled) :
    fragment.content ≠ "" := by
  intro empty
  obtain ⟨part, rest, parts⟩ := List.exists_cons_of_ne_nil isFilled.hasParts
  have whole := isFilled.whole
  rw [IsWhole, empty, parts, List.flatMap_cons] at whole
  have partEmpty : part.content.toList = [] := (List.append_eq_nil_iff.1 whole.symm).1
  have partFilled : part.content ≠ "" := isFilled.filled part (by simp [parts])
  exact partFilled (String.toList_eq_nil_iff.1 partEmpty)

theorem IsFilled.append {first second : Fragment} (firstFilled : first.IsFilled)
    (secondFilled : second.IsFilled) : (first.append second).IsFilled where
  color := firstFilled.color
  hasParts := List.append_ne_nil_of_left_ne_nil firstFilled.hasParts _
  filled := List.forall_mem_append.2 ⟨firstFilled.filled, secondFilled.filled⟩
  whole := firstFilled.whole.append secondFilled.whole

theorem looksLike_congr {first second : Fragment} (alike : first.looksLike second = true)
    (other : Fragment) : first.looksLike other = second.looksLike other := by
  rw [looksLike, Bool.and_eq_true, beq_iff_eq, beq_iff_eq] at alike
  rw [looksLike, looksLike, alike.1, alike.2]

/-- Puts a fragment before a line, as a part of its first fragment if they look alike. -/
def putBefore (fragment : Fragment) : Line → Line
  | [] => [fragment]
  | next :: more =>
      if fragment.looksLike next then fragment.append next :: more else fragment :: next :: more

theorem joinAlike_cons (fragment : Fragment) (rest : List Fragment) :
    joinAlike (fragment :: rest) = fragment.putBefore (joinAlike rest) := by
  rw [joinAlike]
  cases joinAlike rest <;> rfl

end Fragment

/-- No two neighbours look alike, and all fragments are filled. -/
structure Line.IsJoined (line : Line) : Prop where
  filled : ∀ fragment ∈ line, fragment.IsFilled
  apart : line.IsChain fun first second => first.looksLike second = false

/-- One fragment more. -/
theorem Line.IsJoined.putBefore {line : Line} (joined : line.IsJoined) {fragment : Fragment}
    (isFilled : fragment.IsFilled) : (fragment.putBefore line).IsJoined := by
  cases line with
  | nil => exact ⟨by simpa [Fragment.putBefore] using isFilled, List.isChain_singleton fragment⟩
  | cons next more =>
      obtain ⟨nextFilled, moreFilled⟩ := List.forall_mem_cons.1 joined.filled
      rw [Fragment.putBefore]
      split
      · rename_i alike
        -- What is put together looks like the fragment it takes the place of.
        have apart : ∀ other, (fragment.append next).looksLike other = next.looksLike other :=
          Fragment.looksLike_congr alike
        refine ⟨List.forall_mem_cons.2 ⟨isFilled.append nextFilled, moreFilled⟩, ?_⟩
        have chain := joined.apart
        rw [List.isChain_cons] at chain ⊢
        simpa only [apart] using chain
      · rename_i different
        refine ⟨List.forall_mem_cons.2 ⟨isFilled, joined.filled⟩, ?_⟩
        rw [List.isChain_cons_cons]
        exact ⟨Bool.eq_false_iff.2 different, joined.apart⟩

theorem Fragment.isJoined_joinAlike {fragments : List Fragment}
    (filled : ∀ fragment ∈ fragments, fragment.IsFilled) : (joinAlike fragments).IsJoined := by
  induction fragments with
  | nil => exact ⟨filled, List.isChain_nil⟩
  | cons fragment rest inductionHypothesis =>
      obtain ⟨isFilled, restFilled⟩ := List.forall_mem_cons.1 filled
      rw [joinAlike_cons]
      exact (inductionHypothesis restFilled).putBefore isFilled

theorem Line.IsJoined.isChain {line : Line} (joined : line.IsJoined) :
    line.IsChain fun first second => first.color ≠ second.color ∨ first.style ≠ second.style := by
  apply joined.apart.imp
  intro first second different
  simpa [Fragment.looksLike, imp_iff_not_or] using different

theorem Line.IsJoined.eq_nil_of_text {line : Line} (joined : line.IsJoined)
    (empty : line.text = []) : line = [] := by
  cases line with
  | nil => rfl
  | cons fragment rest =>
      rw [Line.text, List.flatMap_cons] at empty
      have contentEmpty := (List.append_eq_nil_iff.1 empty).1
      have isFilled := joined.filled fragment List.mem_cons_self
      exact absurd (String.toList_eq_nil_iff.1 contentEmpty) isFilled.content_ne

namespace Scoping

variable {State Stack Change : Type} {scoping : Scoping State Stack Change} {look : Stack → Look}

/-- No piece is empty, because each lies between two boundaries. -/
theorem content_ne_of_cut {content : List Char} {stack last : Stack}
    {changes : List (Placed Change)} {pieces : List (ScopedPiece Stack)}
    (cuts : scoping.cut content 0 stack changes = .ok (pieces, last))
    (between : BetweenCharacters changes content) : ∀ piece ∈ pieces, piece.content ≠ [] := by
  intro piece member empty
  have isSlice : piece.content ∈ pieces.map ScopedPiece.content := List.mem_map_of_mem member
  rw [map_content_of_cut cuts] at isSlice
  obtain ⟨part, isPart, slice⟩ := List.mem_map.1 isSlice
  have hasBytes := ((followOn_stretches (Nat.zero_le _) _).within part isPart).2.1
  have ends := ends_of_mem_stretches (Text.IsBoundary · content) (Text.isBoundary_zero content)
    (Text.isBoundary_byteLength content) between.isBoundary_min part isPart
  have bytes := Text.byteLength_slice ends.1 ends.2 hasBytes.le
  rw [slice, empty, Text.byteLength_nil] at bytes
  omega

theorem isFilled_fragment {piece : ScopedPiece Stack} (filled : piece.content ≠ []) :
    (scoping.fragment look piece).IsFilled where
  color := rfl
  hasParts := List.cons_ne_nil _ _
  filled := by simpa [fragment, part] using filled
  whole := isWhole_fragment piece

/-- One line. -/
theorem isJoined_of_styleLine {stack last : Stack} {changes : List (Placed Change)}
    {content : List Char} {line : Line}
    (styles : scoping.styleLine look stack changes content = .ok (line, last))
    (between : BetweenCharacters changes content) : line.IsJoined := by
  obtain ⟨⟨pieces, _⟩, cuts, done⟩ := bind_eq_ok_iff.1 styles
  cases done
  have filled := content_ne_of_cut cuts between
  apply Fragment.isJoined_joinAlike
  intro fragment member
  obtain ⟨piece, isPiece, rfl⟩ := List.mem_map.1 member
  exact isFilled_fragment (filled piece isPiece)

/-- Joining gives no sub-token the look of other scopes. -/
theorem shows_of_styleLine {stack last : Stack} {changes : List (Placed Change)}
    {content : List Char} {line : Line}
    (styles : scoping.styleLine look stack changes content = .ok (line, last)) :
    ∀ fragment ∈ line, ∀ part ∈ fragment.parts,
      ∃ stack, scoping.Shows look stack ⟨fragment.color, fragment.style, part⟩ := by
  obtain ⟨⟨pieces, _⟩, _, done⟩ := bind_eq_ok_iff.1 styles
  cases done
  obtain ⟨_, styled, _⟩ := joinAlike_fragments scoping look pieces
  intro fragment inLine part inFragment
  have member : (⟨fragment.color, fragment.style, part⟩ : StyledPart) ∈
      Line.styled (Fragment.joinAlike (pieces.map (scoping.fragment look))) :=
    List.mem_flatMap.2 ⟨fragment, inLine, List.mem_map_of_mem inFragment⟩
  rw [styled] at member
  obtain ⟨piece, _, same⟩ := List.mem_map.1 member
  rw [← same]
  exact ⟨piece.stack, rfl, rfl, rfl⟩

/-- In no line are there two neighbours of one color and style, a fragment without color or without
sub-tokens, or anything empty. Each sub-token has the color and the style of its own scopes. -/
theorem tokenize_joins_all_alike (scoping : Scoping State Stack Change)
    (looks : String → Except HighlightError (Stack → Look)) (text language theme : String)
    (lines : List Line) (tokenizes : scoping.tokenize looks text language theme = .ok lines)
    (between : scoping.FindsBetween language text) :
    ∃ look, looks theme = .ok look ∧
      ∀ (index : Nat) line, lines[index]? = some line →
        ∃ piece, (Text.lines text.toList)[index]? = some piece ∧
          (piece = [] ∨ piece = ['\r'] → line = []) ∧
          line.IsChain (fun first second =>
            first.color ≠ second.color ∨ first.style ≠ second.style) ∧
          ∀ fragment ∈ line, fragment.content ≠ "" ∧ fragment.color.isSome ∧
            fragment.parts ≠ [] ∧ fragment.IsWhole ∧
            ∀ part ∈ fragment.parts, part.content ≠ "" ∧
              ∃ stack, scoping.Shows look stack ⟨fragment.color, fragment.style, part⟩ := by
  obtain ⟨state, look, known, found, tokenizesLines⟩ := tokenize_ok tokenizes
  obtain ⟨changes, reads, sameLength, styles⟩ := styleLine_of_tokenizeLines tokenizesLines
  refine ⟨look, found, ?_⟩
  intro index line isLine
  have inside : index < (Text.lines text.toList).length := by
    rw [← sameLength]
    exact (List.getElem?_eq_some_iff.1 isLine).1
  have isPiece := List.getElem?_eq_getElem inside
  obtain ⟨_, placed, isStyled, isPlaced, before, after, styled⟩ := styles index _ isPiece
  cases isLine.symm.trans isStyled
  have placedBetween := between state changes known reads index placed _ isPlaced isPiece
  have joined := isJoined_of_styleLine styled placedBetween
  have content := (cutAt_of_styleLine styled placedBetween).text
  have shows := shows_of_styleLine styled
  refine ⟨_, isPiece, ?_, joined.isChain, ?_⟩
  · intro empty
    apply joined.eq_nil_of_text
    rw [content]
    rcases empty with none | onlyReturn
    · rw [none]
      rfl
    · rw [onlyReturn]
      rfl
  · intro fragment member
    have isFilled := joined.filled fragment member
    refine ⟨isFilled.content_ne, isFilled.color, isFilled.hasParts, isFilled.whole, ?_⟩
    intro part isPart
    exact ⟨isFilled.filled part isPart, shows fragment member part isPart⟩

/-- A plus sign looks like the letter before it, and a mark like neither of its neighbours. -/
theorem tokenize_joins_all_alike_around_mark :
    ∃ grammar : Grammar, ∃ theme : Theme, ∃ line,
      Grammars.tokenize [grammar] [("bold", theme)] "a+#b" "marks" "bold" = .ok [line] ∧
        line.map Fragment.content = ["a+", "#", "b"] ∧
        line.IsChain (fun first second =>
          first.color ≠ second.color ∨ first.style ≠ second.style) := by
  let plus : GrammarRule := { pattern := .one (· == '+'), scopes := [⟨["plus"]⟩] }
  let mark : GrammarRule := { pattern := .one (· == '#'), scopes := [⟨["mark"]⟩] }
  let grammar : Grammar :=
    { name := "Marks"
      extensions := ["marks"]
      scope := ⟨["source"]⟩
      contexts := [("main", { rules := [plus, mark] })] }
  let theme : Theme :=
    { rules := [{ selectors := [⟨[⟨["mark"]⟩], []⟩], style := some { bold := true } }] }
  obtain ⟨line, tokenizes, contents⟩ : ∃ line,
      Grammars.tokenize [grammar] [("bold", theme)] "a+#b" "marks" "bold" = .ok [line] ∧
        line.map Fragment.content = ["a+", "#", "b"] := ⟨_, rfl, by decide⟩
  obtain ⟨_, _, joined⟩ := tokenize_joins_all_alike (Grammar.scoping (Grammar.find? [grammar]))
    (ThemeSet.look [("bold", theme)]) "a+#b" "marks" "bold" [line] tokenizes
    (Grammar.findsBetween _ _ _)
  obtain ⟨_, _, _, chain, _⟩ := joined 0 line rfl
  exact ⟨grammar, theme, line, tokenizes, contents, chain⟩

end Scoping

end Listings
