/-
This file follows the scopes through the pieces that lines are cut into.
-/

import Listings.Proofs.FirstError
import Listings.Proofs.Grammar.Covering

namespace Listings

namespace Fragment

theorem IsWhole.append {first second : Fragment} (firstWhole : first.IsWhole)
    (secondWhole : second.IsWhole) : (first.append second).IsWhole := by
  rw [IsWhole, Fragment.append, String.toList_append, firstWhole, secondWhole,
    List.flatMap_append]

/-- Joining moves no sub-token into another color or style. -/
theorem styled_append {first second : Fragment} (alike : first.looksLike second = true) :
    (first.append second).styled = first.styled ++ second.styled := by
  rw [looksLike, Bool.and_eq_true, beq_iff_eq, beq_iff_eq] at alike
  obtain ⟨color, style⟩ := alike
  rw [styled, append, List.map_append, styled, styled, color, style]

/-- Fragments are joined to a line of the same sub-tokens. -/
theorem joinAlike_spec {fragments : List Fragment}
    (whole : ∀ fragment ∈ fragments, fragment.IsWhole) :
    (∀ fragment ∈ joinAlike fragments, fragment.IsWhole) ∧
      Line.styled (joinAlike fragments) = Line.styled fragments ∧
      Line.text (joinAlike fragments) = Line.text fragments := by
  induction fragments with
  | nil => exact ⟨whole, rfl, rfl⟩
  | cons fragment rest inductionHypothesis =>
      obtain ⟨fragmentWhole, restWhole⟩ := List.forall_mem_cons.1 whole
      obtain ⟨joinedWhole, styled, text⟩ := inductionHypothesis restWhole
      unfold Line.styled at styled ⊢
      unfold Line.text at text ⊢
      rw [joinAlike, List.flatMap_cons, List.flatMap_cons, ← styled, ← text]
      cases joined : joinAlike rest with
      | nil => exact ⟨by simpa using fragmentWhole, rfl, rfl⟩
      | cons next more =>
          rw [joined] at joinedWhole
          obtain ⟨nextWhole, moreWhole⟩ := List.forall_mem_cons.1 joinedWhole
          dsimp only
          split
          · rename_i alike
            refine ⟨List.forall_mem_cons.2 ⟨fragmentWhole.append nextWhole, moreWhole⟩, ?_, ?_⟩
            · rw [List.flatMap_cons, List.flatMap_cons, styled_append alike, List.append_assoc]
            · rw [List.flatMap_cons, List.flatMap_cons, append, String.toList_append,
                List.append_assoc]
          · exact ⟨List.forall_mem_cons.2 ⟨fragmentWhole, joinedWhole⟩, rfl, rfl⟩

end Fragment

/-- Changes in the order of their places, each of them between two characters of the line. -/
structure InOrder {Change : Type} (changes : List (Placed Change)) (line : List Char) : Prop where
  ascending : changes.Pairwise fun first second => first.byte ≤ second.byte
  boundaries : ∀ placed ∈ changes, Text.IsBoundary placed.byte line

/-- The bytes of a piece. -/
def ScopedPiece.bytes {Stack : Type} (piece : ScopedPiece Stack) : Nat :=
  Text.byteLength piece.content

namespace Scoping

variable {State Stack Change : Type} {scoping : Scoping State Stack Change}

/-- The stack after some changes. -/
def applyAll (scoping : Scoping State Stack Change) (stack : Stack)
    (changes : List (Placed Change)) : Except TokenizeError Stack :=
  changes.foldlM (fun stack placed => scoping.apply stack placed.change) stack

/-- The changes up to a byte. -/
def upTo (byte : Nat) (changes : List (Placed Change)) : List (Placed Change) :=
  changes.filter fun placed => placed.byte ≤ byte

theorem upTo_cons {byte : Nat} {placed : Placed Change} (reached : placed.byte ≤ byte)
    (changes : List (Placed Change)) :
    upTo byte (placed :: changes) = placed :: upTo byte changes :=
  List.filter_cons_of_pos (by simpa using reached)

theorem upTo_eq_nil {byte : Nat} {changes : List (Placed Change)}
    (later : ∀ placed ∈ changes, byte < placed.byte) : upTo byte changes = [] :=
  List.filter_eq_nil_iff.2 fun placed member => by simpa using later placed member

theorem applyAll_cons {stack next : Stack} {placed : Placed Change}
    (applied : scoping.apply stack placed.change = .ok next) (changes : List (Placed Change)) :
    scoping.applyAll stack (placed :: changes) = scoping.applyAll next changes := by
  rw [applyAll, List.foldlM_cons, applied]
  rfl

theorem applyAll_append {stack next : Stack} {changes : List (Placed Change)}
    (applied : scoping.applyAll stack changes = .ok next) (more : List (Placed Change)) :
    scoping.applyAll stack (changes ++ more) = scoping.applyAll next more := by
  rw [applyAll] at applied
  rw [applyAll, List.foldlM_append, applied]
  rfl

section Pieces

variable {content : List Char} {first last : Nat} {stack : Stack}

theorem content_between (firstBoundary : Text.IsBoundary first content)
    (lastBoundary : Text.IsBoundary last content) (le : first ≤ last) :
    (ScopedPiece.between content first last stack).flatMap ScopedPiece.content =
      Text.slice first last content := by
  unfold ScopedPiece.between
  split
  · exact List.append_nil _
  · rename_i notLess
    obtain rfl : first = last := by omega
    have empty := Text.byteLength_slice firstBoundary lastBoundary le
    rw [Nat.sub_self] at empty
    exact (Text.eq_nil_of_byteLength_eq_zero empty).symm

theorem total_bytes (pieces : List (ScopedPiece Stack)) :
    total ScopedPiece.bytes pieces =
      Text.byteLength (pieces.flatMap ScopedPiece.content) := by
  induction pieces with
  | nil => rfl
  | cons piece rest inductionHypothesis =>
      rw [total_cons, inductionHypothesis, List.flatMap_cons, Text.byteLength_append]
      rfl

theorem spans_between {holds : Nat → ScopedPiece Stack → Prop}
    (firstBoundary : Text.IsBoundary first content) (lastBoundary : Text.IsBoundary last content)
    (holdsAll : ∀ byte < last, holds byte ⟨Text.slice first last content, stack⟩) :
    Spans ScopedPiece.bytes holds first (ScopedPiece.between content first last stack) := by
  unfold ScopedPiece.between
  split
  · rename_i less
    refine ⟨fun byte _ ends => holdsAll byte ?_, trivial⟩
    rw [ScopedPiece.bytes, Text.byteLength_slice firstBoundary lastBoundary less.le] at ends
    omega
  · trivial

end Pieces

/-- Each piece has the scopes of the changes up to any of its bytes, and nothing is left out. -/
theorem spans_of_cut {content : List Char} {position : Nat} {stack last : Stack}
    {changes : List (Placed Change)} {pieces : List (ScopedPiece Stack)}
    (cuts : scoping.cut content position stack changes = .ok (pieces, last))
    (boundary : Text.IsBoundary position content)
    (ascending : changes.Pairwise fun first second => first.byte ≤ second.byte)
    (boundaries : ∀ placed ∈ changes,
      Text.IsBoundary (min placed.byte (Text.byteLength content)) content)
    (ahead : ∀ placed ∈ changes, position ≤ min placed.byte (Text.byteLength content)) :
    Spans ScopedPiece.bytes
        (fun byte piece => scoping.applyAll stack (upTo byte changes) = .ok piece.stack)
        position pieces ∧
      pieces.flatMap ScopedPiece.content =
        Text.slice position (Text.byteLength content) content ∧
      scoping.applyAll stack changes = .ok last := by
  have finish := Text.isBoundary_byteLength content
  -- Every change still to come is at the position reached or behind it.
  induction changes generalizing position stack pieces with
  | nil =>
      cases cuts
      exact ⟨spans_between boundary finish fun byte _ => rfl,
        content_between boundary finish boundary.le, rfl⟩
  | cons placed changes inductionHypothesis =>
      obtain ⟨next, applied, rest⟩ := bind_eq_ok_iff.1 cuts
      obtain ⟨⟨more, _⟩, cutMore, done⟩ := bind_eq_ok_iff.1 rest
      cases done
      obtain ⟨placedFirst, ascendingMore⟩ := List.pairwise_cons.1 ascending
      obtain ⟨placedBoundary, boundariesMore⟩ := List.forall_mem_cons.1 boundaries
      obtain ⟨placedAhead, _⟩ := List.forall_mem_cons.1 ahead
      obtain ⟨index, isIndex⟩ : ∃ index, index = min placed.byte (Text.byteLength content) :=
        ⟨_, rfl⟩
      rw [← isIndex] at placedBoundary placedAhead cutMore ⊢
      rw [Nat.max_eq_right placedAhead] at cutMore
      have aheadMore : ∀ later ∈ changes, index ≤ min later.byte (Text.byteLength content) := by
        intro later member
        have le := placedFirst later member
        omega
      obtain ⟨spansMore, contentMore, lastMore⟩ :=
        inductionHypothesis cutMore placedBoundary ascendingMore boundariesMore aheadMore
      refine ⟨spans_append.2 ⟨?_, ?_⟩, ?_, ?_⟩
      -- The change reaches no byte of the piece in front of it, and all bytes of those after it.
      · refine spans_between boundary placedBoundary fun byte before => ?_
        have none : upTo byte (placed :: changes) = [] := by
          refine upTo_eq_nil (List.forall_mem_cons.2 ⟨by omega, fun later member => ?_⟩)
          have notBefore := placedFirst later member
          omega
        rw [none]
        rfl
      · rw [total_bytes, content_between boundary placedBoundary placedAhead,
          Text.byteLength_slice boundary placedBoundary placedAhead,
          Nat.add_sub_cancel' placedAhead]
        refine spansMore.imp fun byte piece starts ends scopes => ?_
        rw [total_bytes, contentMore, Text.byteLength_slice placedBoundary finish placedBoundary.le]
          at ends
        have reached : placed.byte ≤ byte := by omega
        rw [upTo_cons reached, applyAll_cons applied]
        exact scopes
      · rw [List.flatMap_append, contentMore, content_between boundary placedBoundary placedAhead,
          Text.slice_append_slice boundary placedBoundary finish placedAhead placedBoundary.le]
      · rw [applyAll_cons applied, lastMore]

end Scoping

end Listings
