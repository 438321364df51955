/-
This file says which bytes of its line each sub-token stands for, wherever changes of scopes are
placed, and shows that all of a text is kept.
-/

import Listings.Engine.Grammars
import Listings.Proofs.Grammar.ScopesInForce
import Listings.Proofs.Text.Pieces

namespace Listings

/-- The bytes from one up to another, if there are any. -/
def stretch (first last : Nat) : List (Nat × Nat) := if first < last then [(first, last)] else []

/-- The stretches that changes at these bytes leave of so many bytes, from a position on. A change
before the position cuts nothing, and one behind the end cuts at the end. -/
def stretches (size : Nat) : Nat → List Nat → List (Nat × Nat)
  | position, [] => stretch position size
  | position, byte :: bytes =>
      stretch position (min byte size) ++ stretches size (max position (min byte size)) bytes

/-- Each stretch has bytes and begins where the one before it ends. -/
inductive FollowOn : Nat → Nat → List (Nat × Nat) → Prop
  | nil (byte : Nat) : FollowOn byte byte []
  | cons {first next last : Nat} {rest : List (Nat × Nat)} (hasBytes : first < next)
      (followOn : FollowOn next last rest) : FollowOn first last ((first, next) :: rest)

namespace FollowOn

variable {first middle last : Nat} {parts more : List (Nat × Nat)}

theorem le (followOn : FollowOn first last parts) : first ≤ last := by
  induction followOn with
  | nil byte => exact Nat.le_refl byte
  | cons hasBytes _ inductionHypothesis => omega

theorem append (followOn : FollowOn first middle parts) (further : FollowOn middle last more) :
    FollowOn first last (parts ++ more) := by
  induction followOn with
  | nil byte => exact further
  | cons hasBytes _ inductionHypothesis => exact .cons hasBytes (inductionHypothesis further)

theorem within (followOn : FollowOn first last parts) :
    ∀ part ∈ parts, first ≤ part.1 ∧ part.1 < part.2 ∧ part.2 ≤ last := by
  induction followOn with
  | nil byte => simp
  | @cons first next last rest hasBytes followOn inductionHypothesis =>
      have ends := followOn.le
      intro part member
      rcases List.mem_cons.1 member with same | inRest
      · subst same
        exact ⟨Nat.le_refl first, hasBytes, ends⟩
      · have inside := inductionHypothesis part inRest
        omega

/-- Between characters the slices of stretches that follow each other make one slice. -/
theorem flatMap_slice {text : List Char} (followOn : FollowOn first last parts)
    (begins : Text.IsBoundary first text) (ends : Text.IsBoundary last text)
    (boundaries : ∀ part ∈ parts, Text.IsBoundary part.2 text) :
    (parts.flatMap fun part => Text.slice part.1 part.2 text) = Text.slice first last text := by
  induction followOn with
  | nil byte =>
      have empty := Text.byteLength_slice begins begins (Nat.le_refl byte)
      rw [Nat.sub_self] at empty
      exact (Text.eq_nil_of_byteLength_eq_zero empty).symm
  | @cons first next last rest hasBytes followOn inductionHypothesis =>
      obtain ⟨nextBoundary, restBoundaries⟩ := List.forall_mem_cons.1 boundaries
      rw [List.flatMap_cons, inductionHypothesis nextBoundary ends restBoundaries]
      exact Text.slice_append_slice begins nextBoundary ends hasBytes.le followOn.le

end FollowOn

section Places

variable {size position : Nat}

theorem followOn_stretch {first last : Nat} (le : first ≤ last) :
    FollowOn first last (stretch first last) := by
  unfold stretch
  split
  · rename_i hasBytes
    exact .cons hasBytes (.nil last)
  · have same : first = last := by omega
    rw [same]
    exact .nil last

/-- Wherever changes are placed, the stretches cover all bytes from the position on. -/
theorem followOn_stretches (within : position ≤ size) (bytes : List Nat) :
    FollowOn position size (stretches size position bytes) := by
  -- A change that is not ahead of the position leaves it where it is.
  induction bytes generalizing position with
  | nil => exact followOn_stretch within
  | cons byte bytes inductionHypothesis =>
      have further := @inductionHypothesis (max position (min byte size)) (by omega)
      rw [stretches]
      by_cases ahead : position ≤ min byte size
      · rw [Nat.max_eq_right ahead] at further ⊢
        exact (followOn_stretch ahead).append further
      · have behind : min byte size ≤ position := by omega
        rw [Nat.max_eq_left behind] at further ⊢
        rw [stretch, if_neg (by omega), List.nil_append]
        exact further

/-- A stretch begins and ends at places where changes are, or at the ends of all. -/
theorem ends_of_mem_stretches (holds : Nat → Prop) {bytes : List Nat} (start : holds position)
    (finish : holds size) (places : ∀ byte ∈ bytes, holds (min byte size)) :
    ∀ part ∈ stretches size position bytes, holds part.1 ∧ holds part.2 := by
  have single : ∀ {first last : Nat}, holds first → holds last →
      ∀ part ∈ stretch first last, holds part.1 ∧ holds part.2 := by
    intro first last firstHolds lastHolds part member
    unfold stretch at member
    split at member
    · rw [List.mem_singleton.1 member]
      exact ⟨firstHolds, lastHolds⟩
    · contradiction
  induction bytes generalizing position with
  | nil => exact single start finish
  | cons byte bytes inductionHypothesis =>
      obtain ⟨here, later⟩ := List.forall_mem_cons.1 places
      have next : holds (max position (min byte size)) := by
        rcases Nat.le_total position (min byte size) with ahead | behind
        · rwa [Nat.max_eq_right ahead]
        · rwa [Nat.max_eq_left behind]
      intro part member
      rcases List.mem_append.1 member with inFirst | inLater
      · exact single start here part inFirst
      · exact inductionHypothesis next later part inLater

end Places

/-- No change stands within a character of the line. Those behind its end may stand anywhere. -/
def BetweenCharacters {Change : Type} (changes : List (Placed Change)) (line : List Char) : Prop :=
  ∀ placed ∈ changes, placed.byte < Text.byteLength line → Text.IsBoundary placed.byte line

theorem BetweenCharacters.isBoundary_min {Change : Type} {changes : List (Placed Change)}
    {line : List Char} (between : BetweenCharacters changes line) :
    ∀ byte ∈ changes.map Placed.byte, Text.IsBoundary (min byte (Text.byteLength line)) line := by
  intro byte member
  obtain ⟨placed, isChange, same⟩ := List.mem_map.1 member
  by_cases inside : byte < Text.byteLength line
  · rw [Nat.min_eq_left inside.le, ← same]
    exact between placed isChange (same ▸ inside)
  · rw [Nat.min_eq_right (Nat.le_of_not_lt inside)]
    exact Text.isBoundary_byteLength line

namespace Scoping

variable {State Stack Change : Type} {scoping : Scoping State Stack Change} {look : Stack → Look}

theorem map_content_between (content : List Char) (first last : Nat) (stack : Stack) :
    (ScopedPiece.between content first last stack).map ScopedPiece.content =
      (stretch first last).map fun part => Text.slice part.1 part.2 content := by
  unfold ScopedPiece.between stretch
  split <;> rfl

/-- The slices that a line is cut into. -/
theorem map_content_of_cut {content : List Char} {position : Nat} {stack last : Stack}
    {changes : List (Placed Change)} {pieces : List (ScopedPiece Stack)}
    (cuts : scoping.cut content position stack changes = .ok (pieces, last)) :
    pieces.map ScopedPiece.content =
      (stretches (Text.byteLength content) position (changes.map Placed.byte)).map fun part =>
        Text.slice part.1 part.2 content := by
  induction changes generalizing position stack pieces with
  | nil =>
      cases cuts
      exact map_content_between content _ _ _
  | cons placed changes inductionHypothesis =>
      obtain ⟨next, _, rest⟩ := bind_eq_ok_iff.1 cuts
      obtain ⟨⟨more, _⟩, cutMore, done⟩ := bind_eq_ok_iff.1 rest
      cases done
      rw [List.map_append, map_content_between, inductionHypothesis cutMore, ← List.map_append]
      rfl

theorem map_part_styled (line : Line) :
    line.styled.map StyledPart.part = line.flatMap Fragment.parts := by
  induction line with
  | nil => rfl
  | cons fragment rest inductionHypothesis =>
      rw [Line.styled, List.flatMap_cons, List.map_append, List.flatMap_cons, Fragment.styled,
        List.map_map, ← inductionHypothesis]
      exact congrArg (· ++ _) (List.map_id _)

/-- The line has some content, and its sub-tokens stand one by one for the stretches that changes at
these bytes leave of it. -/
structure CutAt (content : List Char) (bytes : List Nat) (line : Line) : Prop where
  text : line.text = content
  parts : (line.flatMap Fragment.parts).map (fun part => part.content.toList) =
    (stretches (Text.byteLength content) 0 bytes).map fun part =>
      Text.slice part.1 part.2 content
  followOn : FollowOn 0 (Text.byteLength content) (stretches (Text.byteLength content) 0 bytes)
  within : ∀ part ∈ stretches (Text.byteLength content) 0 bytes,
    part.1 < part.2 ∧ part.2 ≤ Text.byteLength content ∧
      Text.IsBoundary part.1 content ∧ Text.IsBoundary part.2 content

/-- One line. -/
theorem cutAt_of_styleLine {stack last : Stack} {changes : List (Placed Change)}
    {content : List Char} {line : Line}
    (styles : scoping.styleLine look stack changes content = .ok (line, last))
    (between : BetweenCharacters changes content) :
    CutAt content (changes.map Placed.byte) line := by
  obtain ⟨⟨pieces, _⟩, cuts, done⟩ := bind_eq_ok_iff.1 styles
  cases done
  have contents := map_content_of_cut cuts
  have followOn := followOn_stretches (Nat.zero_le (Text.byteLength content))
    (changes.map Placed.byte)
  have start := Text.isBoundary_zero content
  have finish := Text.isBoundary_byteLength content
  have boundaries := ends_of_mem_stretches (Text.IsBoundary · content) start finish
    between.isBoundary_min
  obtain ⟨_, styled, text⟩ := joinAlike_fragments scoping look pieces
  refine ⟨?_, ?_, followOn, ?_⟩
  · have joined := followOn.flatMap_slice start finish fun part member => (boundaries part member).2
    rw [Text.slice_zero_byteLength, List.flatMap_def, ← contents] at joined
    rw [text, List.flatMap_def, joined]
  · rw [← map_part_styled, styled, List.map_map, List.map_map, ← contents]
    apply List.map_congr_left
    intro piece _
    exact String.toList_ofList
  · intro part member
    have inside := followOn.within part member
    exact ⟨inside.2.1, inside.2.2, boundaries part member⟩

/-- Each line is styled with the changes that are found in it. -/
theorem styleLine_of_tokenizeLines {state : State} {stack : Stack} {texts : List (List Char)}
    {lines : List Line} (tokenizes : scoping.tokenizeLines look state stack texts = .ok lines) :
    ∃ changes, scoping.readLines state texts = .ok changes ∧ lines.length = texts.length ∧
      ∀ (index : Nat) (text : List Char), texts[index]? = some text →
        ∃ line placed, lines[index]? = some line ∧ changes[index]? = some placed ∧
          ∃ before after,
            scoping.styleLine look before placed (lineContent text) = .ok (line, after) := by
  induction texts generalizing state stack lines with
  | nil =>
      cases tokenizes
      exact ⟨[], rfl, rfl, fun index text found => nomatch found⟩
  | cons text rest inductionHypothesis =>
      obtain ⟨⟨changes, nextState⟩, reads, further⟩ := bind_eq_ok_iff.1 tokenizes
      obtain ⟨⟨line, nextStack⟩, styles, last⟩ := bind_eq_ok_iff.1 further
      obtain ⟨more, tokenizesRest, done⟩ := bind_eq_ok_iff.1 last
      cases done
      obtain ⟨others, readsRest, sameLength, styledRest⟩ := inductionHypothesis tokenizesRest
      have readsAll : scoping.readLines state (text :: rest) = .ok (changes :: others) :=
        bind_eq_ok_iff.2 ⟨_, reads, bind_eq_ok_iff.2 ⟨_, readsRest, rfl⟩⟩
      refine ⟨changes :: others, readsAll, congrArg (· + 1) sameLength, ?_⟩
      intro index otherText isText
      cases index with
      | zero =>
          cases isText
          exact ⟨line, changes, rfl, rfl, stack, nextStack, styles⟩
      | succ index => exact styledRest index otherText isText

/-- No change that is found in the lines of the text stands within a character. -/
def FindsBetween (scoping : Scoping State Stack Change) (language text : String) : Prop :=
  ∀ state changes, scoping.start? language = some state →
    scoping.readLines state (Text.lines text.toList) = .ok changes →
      ∀ (index : Nat) placed piece, changes[index]? = some placed →
        (Text.lines text.toList)[index]? = some piece → BetweenCharacters placed (lineContent piece)

theorem readLine_of_readLines {state : State} {texts : List (List Char)}
    {changes : List (List (Placed Change))} (reads : scoping.readLines state texts = .ok changes) :
    ∀ (index : Nat) placed text, changes[index]? = some placed → texts[index]? = some text →
      ∃ before after, scoping.readLine before (lineRead text) = .ok (placed, after) := by
  induction texts generalizing state changes with
  | nil => exact fun index placed text _ isText => nomatch isText
  | cons text rest inductionHypothesis =>
      obtain ⟨⟨first, next⟩, readsFirst, further⟩ := bind_eq_ok_iff.1 reads
      obtain ⟨others, readsRest, done⟩ := bind_eq_ok_iff.1 further
      cases done
      intro index placed otherText isPlaced isText
      cases index with
      | zero =>
          cases isPlaced
          cases isText
          exact ⟨state, next, readsFirst⟩
      | succ index => exact inductionHypothesis readsRest index placed otherText isPlaced isText

end Scoping

namespace Grammar

/-- Grammars count characters, so none of them is cut. -/
theorem betweenCharacters_of_readLine {state next : Grammar × Nesting} {content : List Char}
    {changes : List (Placed ScopeChange)}
    (reads : readLine state (content ++ ['\n']) = .ok (changes, next)) :
    BetweenCharacters changes content := by
  obtain ⟨⟨found, nesting⟩, _, done⟩ := bind_eq_ok_iff.1 reads
  cases done
  intro placed member inside
  obtain ⟨change, _, rfl⟩ := List.mem_map.1 member
  have boundary : Text.IsBoundary (Text.byteLength ((content ++ ['\n']).take change.position))
      (content ++ ['\n']) := ⟨_, List.take_prefix _ _, rfl⟩
  have clamped := Text.isBoundary_min boundary
  rwa [Nat.min_eq_left inside.le] at clamped

theorem findsBetween (find? : String → Option Grammar) (language text : String) :
    (scoping find?).FindsBetween language text := by
  intro state changes _ reads index placed piece isPlaced isPiece
  obtain ⟨before, after, readsLine⟩ :=
    Scoping.readLine_of_readLines reads index placed piece isPlaced isPiece
  exact betweenCharacters_of_readLine readsLine

end Grammar

namespace Scoping

variable {State Stack Change : Type}

/-- Every line keeps its text, less one carriage return at its end, wherever changes are found as
long as they cut no character: they may repeat a place, go back or lie behind the line. Its
sub-tokens are slices of it that follow each other from its first byte to its last. -/
theorem tokenize_keeps_text_at_any_changes (scoping : Scoping State Stack Change)
    (looks : String → Except HighlightError (Stack → Look)) (text language theme : String)
    (lines : List Line) (tokenizes : scoping.tokenize looks text language theme = .ok lines)
    (between : scoping.FindsBetween language text) :
    lines.length = text.toList.count '\n' + 1 ∧
    lines.length = (Text.lines text.toList).length ∧
    ∃ state changes, scoping.start? language = some state ∧
      scoping.readLines state (Text.lines text.toList) = .ok changes ∧
      ∀ (index : Nat) piece, (Text.lines text.toList)[index]? = some piece →
        ∃ line placed, lines[index]? = some line ∧ changes[index]? = some placed ∧
          (∀ rest, piece = rest ++ ['\r'] → line.text = rest) ∧
          ((¬ ∃ rest, piece = rest ++ ['\r']) → line.text = piece) ∧
          CutAt line.text (placed.map Placed.byte) line := by
  obtain ⟨state, look, known, _, tokenizesLines⟩ := tokenize_ok tokenizes
  obtain ⟨changes, reads, sameLength, styles⟩ := styleLine_of_tokenizeLines tokenizesLines
  have count : (Text.lines text.toList).length = text.toList.count '\n' + 1 :=
    Text.length_pieces '\n' text.toList
  refine ⟨sameLength.trans count, sameLength, state, changes, known, reads, ?_⟩
  intro index piece isPiece
  obtain ⟨line, placed, isLine, isPlaced, before, after, styled⟩ := styles index piece isPiece
  have cutAt := cutAt_of_styleLine styled
    (between state changes known reads index placed piece isPlaced isPiece)
  refine ⟨line, placed, isLine, isPlaced, ?_, ?_, cutAt.text ▸ cutAt⟩
  · rintro rest rfl
    rw [cutAt.text]
    exact Text.getD_dropEnd?_append ['\r'] rest
  · intro unended
    rw [cutAt.text]
    exact Text.getD_dropEnd?_eq_self unended

/-- A mark that reaches behind the content of its line ends with it. -/
theorem tokenize_keeps_text_at_any_changes_behind_content :
    ∃ grammar : Grammar, ∃ line last,
      Grammars.tokenize [grammar] [("plain", {})] "é#\r\nx" "marks" "plain" = .ok [line, last] ∧
        line.text = "é#".toList ∧ CutAt "é#".toList [0, 2, 4] line := by
  let rule : GrammarRule :=
    { pattern := .both (.one (· == '#')) (.one (· == '\n')), scopes := [⟨["mark"]⟩] }
  let grammar : Grammar :=
    { name := "Marks"
      extensions := ["marks"]
      scope := ⟨["source"]⟩
      contexts := [("main", { rules := [rule] })] }
  let scoping := Grammar.scoping (Grammar.find? [grammar])
  obtain ⟨line, last, tokenizes⟩ : ∃ line last,
      Grammars.tokenize [grammar] [("plain", {})] "é#\r\nx" "marks" "plain" = .ok [line, last] :=
    ⟨_, _, rfl⟩
  obtain ⟨_, _, state, changes, known, reads, kept⟩ :=
    tokenize_keeps_text_at_any_changes scoping (ThemeSet.look [("plain", {})]) "é#\r\nx" "marks"
      "plain" [line, last] tokenizes (Grammar.findsBetween _ _ _)
  cases known
  cases reads
  obtain ⟨_, placed, isLine, isPlaced, ended, _, cutAt⟩ := kept 0 "é#\r".toList rfl
  cases isLine
  cases isPlaced
  have sameText := ended "é#".toList rfl
  exact ⟨grammar, line, last, tokenizes, sameText, sameText ▸ cutAt⟩

end Scoping

end Listings
