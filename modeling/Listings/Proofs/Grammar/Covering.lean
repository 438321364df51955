/-
This file finds the sub-token that a byte of a line belongs to.
-/

import Listings.Grammar.Styling
import Listings.Proofs.Text.Bytes

namespace Listings

section Sizes

variable {α : Type}

/-- What all items take up together. -/
def total (size : α → Nat) : List α → Nat
  | [] => 0
  | item :: rest => size item + total size rest

/-- Something holds of each item at all places that the item takes up. -/
def Spans (size : α → Nat) (holds : Nat → α → Prop) : Nat → List α → Prop
  | _, [] => True
  | start, item :: rest =>
      (∀ place, start ≤ place → place < start + size item → holds place item) ∧
        Spans size holds (start + size item) rest

variable {size : α → Nat} {holds : Nat → α → Prop}

@[simp] theorem total_nil : total size [] = 0 := rfl

@[simp] theorem total_cons (item : α) (rest : List α) :
    total size (item :: rest) = size item + total size rest := rfl

@[simp] theorem total_append (items more : List α) :
    total size (items ++ more) = total size items + total size more := by
  induction items with
  | nil => exact (Nat.zero_add _).symm
  | cons item rest inductionHypothesis =>
      rw [List.cons_append, total_cons, total_cons, inductionHypothesis, Nat.add_assoc]

theorem total_take_succ {items : List α} {index : Nat} {item : α}
    (found : items[index]? = some item) :
    total size (items.take (index + 1)) = total size (items.take index) + size item := by
  rw [List.take_add_one, found, total_append]
  rfl

theorem total_take_le_of_le (items : List α) {first last : Nat} (le : first ≤ last) :
    total size (items.take first) ≤ total size (items.take last) := by
  obtain ⟨more, whole⟩ := List.take_prefix_take_left (l := items) le
  rw [← whole, total_append]
  exact Nat.le_add_right _ _

theorem total_take_le (items : List α) (count : Nat) :
    total size (items.take count) ≤ total size items := by
  obtain ⟨more, whole⟩ := List.take_prefix count items
  rw [← congrArg (total size) whole, total_append]
  exact Nat.le_add_right _ _

theorem total_map {β : Type} (f : β → α) (items : List β) :
    total size (items.map f) = total (fun item => size (f item)) items := by
  induction items with
  | nil => rfl
  | cons item rest inductionHypothesis =>
      rw [List.map_cons, total_cons, total_cons, inductionHypothesis]

theorem eq_take_append_cons_drop {items : List α} {index : Nat} {item : α}
    (found : items[index]? = some item) :
    items = items.take index ++ item :: items.drop (index + 1) := by
  obtain ⟨inside, rfl⟩ := List.getElem?_eq_some_iff.1 found
  rw [← List.drop_eq_getElem_cons inside, List.take_append_drop]

/-- The item takes up the place. -/
def TakesUp (size : α → Nat) (items : List α) (place index : Nat) : Prop :=
  ∃ item, items[index]? = some item ∧ total size (items.take index) ≤ place ∧
    place < total size (items.take index) + size item

theorem exists_takesUp {items : List α} {place : Nat} (inside : place < total size items) :
    ∃ index, TakesUp size items place index := by
  induction items generalizing place with
  | nil => exact absurd inside (Nat.not_lt_zero place)
  | cons first rest inductionHypothesis =>
      rw [total_cons] at inside
      by_cases isFirst : place < size first
      · exact ⟨0, first, rfl, Nat.zero_le place, by simpa using isFirst⟩
      · have inRest : place - size first < total size rest := by omega
        obtain ⟨index, item, found, starts, ends⟩ := inductionHypothesis inRest
        refine ⟨index + 1, item, found, ?_, ?_⟩
        · rw [List.take_succ_cons, total_cons]
          omega
        · rw [List.take_succ_cons, total_cons]
          omega

theorem TakesUp.le {items : List α} {place first second : Nat}
    (takesUp : TakesUp size items place first) (other : TakesUp size items place second) :
    first ≤ second := by
  obtain ⟨item, found, starts, _⟩ := takesUp
  obtain ⟨otherItem, otherFound, _, otherEnds⟩ := other
  by_contra later
  have before : total size (items.take (second + 1)) ≤ total size (items.take first) :=
    total_take_le_of_le items (Nat.succ_le_of_lt (Nat.not_le.1 later))
  rw [total_take_succ otherFound] at before
  omega

/-- No two items take up the same place. -/
theorem TakesUp.unique {items : List α} {place first second : Nat}
    (takesUp : TakesUp size items place first) (other : TakesUp size items place second) :
    first = second :=
  Nat.le_antisymm (takesUp.le other) (other.le takesUp)

theorem spans_append {items more : List α} {start : Nat} :
    Spans size holds start (items ++ more) ↔
      Spans size holds start items ∧ Spans size holds (start + total size items) more := by
  induction items generalizing start with
  | nil =>
      rw [List.nil_append, total_nil, Nat.add_zero]
      exact (and_iff_right trivial).symm
  | cons item rest inductionHypothesis =>
      rw [List.cons_append, Spans, Spans, inductionHypothesis, total_cons, and_assoc, Nat.add_assoc]

theorem spans_map {β : Type} {f : β → α} {items : List β} {start : Nat} :
    Spans size holds start (items.map f) ↔
      Spans (fun item => size (f item)) (fun place item => holds place (f item)) start items := by
  induction items generalizing start with
  | nil => exact Iff.rfl
  | cons item rest inductionHypothesis =>
      rw [List.map_cons, Spans, Spans, inductionHypothesis]

theorem Spans.imp {other : Nat → α → Prop} {items : List α} {start : Nat}
    (spans : Spans size holds start items)
    (implies : ∀ place item, start ≤ place → place < start + total size items →
      holds place item → other place item) : Spans size other start items := by
  induction items generalizing start with
  | nil => exact spans
  | cons item rest inductionHypothesis =>
      obtain ⟨here, later⟩ := spans
      rw [total_cons] at implies
      refine ⟨fun place starts ends => ?_,
        inductionHypothesis later fun place item starts ends => ?_⟩
      · exact implies place item starts (by omega) (here place starts ends)
      · exact implies place item (by omega) (by omega)

end Sizes

/-- The bytes of a sub-token. -/
def SubToken.bytes (part : SubToken) : Nat := Text.byteLength part.content.toList

namespace Fragment

/-- The bytes of a fragment. -/
def bytes (fragment : Fragment) : Nat := Text.byteLength fragment.content.toList

/-- The fragment has the text of its sub-tokens. -/
def IsWhole (fragment : Fragment) : Prop :=
  fragment.content.toList = fragment.parts.flatMap fun part => part.content.toList

theorem IsWhole.bytes_eq {fragment : Fragment} (whole : fragment.IsWhole) :
    fragment.bytes = total SubToken.bytes fragment.parts := by
  rw [bytes, whole]
  generalize fragment.parts = parts
  induction parts with
  | nil => rfl
  | cons part rest inductionHypothesis =>
      rw [List.flatMap_cons, Text.byteLength_append, inductionHypothesis, total_cons]
      rfl

end Fragment

namespace Line

/-- Where in the line a sub-token of a fragment starts. -/
def start (line : Line) (fragment : Fragment) (place : Nat × Nat) : Nat :=
  total Fragment.bytes (line.take place.1) + total SubToken.bytes (fragment.parts.take place.2)

/-- The sub-token stands at that place, counted in fragments and in sub-tokens of the fragment, and
the byte belongs to it. -/
structure Covers (fragments : Line) (byte : Nat) (place : Nat × Nat) (fragment : Fragment)
    (part : SubToken) : Prop where
  hasFragment : fragments[place.1]? = some fragment
  hasPart : fragment.parts[place.2]? = some part
  starts : fragments.start fragment place ≤ byte
  ends : byte < fragments.start fragment place + part.bytes

variable {line : Line} {byte : Nat} {place other : Nat × Nat} {fragment : Fragment}
  {part : SubToken}

theorem Covers.fragment_takesUp (covers : line.Covers byte place fragment part)
    (whole : fragment.IsWhole) : TakesUp Fragment.bytes line byte place.1 := by
  have within : total SubToken.bytes (fragment.parts.take (place.2 + 1)) ≤ fragment.bytes := by
    rw [whole.bytes_eq]
    exact total_take_le _ _
  rw [total_take_succ covers.hasPart] at within
  have starts := covers.starts
  have ends := covers.ends
  rw [start] at starts ends
  exact ⟨fragment, covers.hasFragment, by omega, by omega⟩

theorem Covers.part_takesUp (covers : line.Covers byte place fragment part) :
    TakesUp SubToken.bytes fragment.parts (byte - total Fragment.bytes (line.take place.1))
      place.2 := by
  have starts := covers.starts
  have ends := covers.ends
  rw [start] at starts ends
  exact ⟨part, covers.hasPart, by omega, by omega⟩

/-- Every byte of a line belongs to exactly one sub-token of exactly one fragment. -/
theorem existsUnique_covers (whole : ∀ fragment ∈ line, fragment.IsWhole)
    (inside : byte < total Fragment.bytes line) :
    ∃! place : Nat × Nat, ∃ fragment part, line.Covers byte place fragment part := by
  obtain ⟨index, fragment, found, starts, ends⟩ := exists_takesUp inside
  have fragmentWhole := whole fragment (List.mem_of_getElem? found)
  rw [fragmentWhole.bytes_eq] at ends
  have inPart : byte - total Fragment.bytes (line.take index) <
      total SubToken.bytes fragment.parts := by omega
  obtain ⟨partIndex, part, partFound, partStarts, partEnds⟩ := exists_takesUp inPart
  have covers : line.Covers byte (index, partIndex) fragment part := by
    have startEq : line.start fragment (index, partIndex) =
      total Fragment.bytes (line.take index) +
        total SubToken.bytes (fragment.parts.take partIndex) := rfl
    exact ⟨found, partFound, by omega, by omega⟩
  refine ⟨(index, partIndex), ⟨fragment, part, covers⟩, ?_⟩
  rintro ⟨otherIndex, otherPartIndex⟩ ⟨otherFragment, otherPart, otherCovers⟩
  have otherWhole := whole otherFragment (List.mem_of_getElem? otherCovers.hasFragment)
  obtain rfl : otherIndex = index :=
    (otherCovers.fragment_takesUp otherWhole).unique (covers.fragment_takesUp fragmentWhole)
  obtain rfl : otherFragment = fragment :=
    Option.some.inj (otherCovers.hasFragment.symm.trans covers.hasFragment)
  rw [Prod.mk.injEq]
  exact ⟨rfl, otherCovers.part_takesUp.unique covers.part_takesUp⟩

end Line

/-- A sub-token with the color and the style that its fragment gives it. -/
structure StyledPart where
  color : Option String
  style : FontStyle
  part : SubToken

/-- The bytes of a styled sub-token. -/
def StyledPart.bytes (styled : StyledPart) : Nat := styled.part.bytes

def Fragment.styled (fragment : Fragment) : List StyledPart :=
  fragment.parts.map fun part => ⟨fragment.color, fragment.style, part⟩

def Line.styled (line : Line) : List StyledPart := line.flatMap Fragment.styled

theorem Fragment.total_styled (fragment : Fragment) :
    total StyledPart.bytes fragment.styled = total SubToken.bytes fragment.parts := by
  rw [Fragment.styled, total_map]
  rfl

theorem Line.total_styled {line : Line} (whole : ∀ fragment ∈ line, fragment.IsWhole) :
    total StyledPart.bytes line.styled = total Fragment.bytes line := by
  induction line with
  | nil => rfl
  | cons fragment rest inductionHypothesis =>
      obtain ⟨fragmentWhole, restWhole⟩ := List.forall_mem_cons.1 whole
      rw [Line.styled, List.flatMap_cons, total_append, Fragment.total_styled, total_cons,
        ← fragmentWhole.bytes_eq]
      exact congrArg (fragment.bytes + ·) (inductionHypothesis restWhole)

theorem Line.styled_append (line more : Line) :
    Line.styled (line ++ more) = line.styled ++ more.styled :=
  List.flatMap_append

/-- What holds of all styled sub-tokens of a line holds of the one at a place. -/
theorem Line.Covers.holds {line : Line} {holds : Nat → StyledPart → Prop}
    (whole : ∀ fragment ∈ line, fragment.IsWhole)
    (spans : Spans StyledPart.bytes holds 0 line.styled) {byte : Nat} {place : Nat × Nat}
    {fragment : Fragment} {part : SubToken} (covers : line.Covers byte place fragment part) :
    holds byte ⟨fragment.color, fragment.style, part⟩ := by
  have beforeWhole : ∀ other ∈ line.take place.1, other.IsWhole := fun other member =>
    whole other (List.mem_of_mem_take member)
  have starts := covers.starts
  have ends := covers.ends
  rw [Line.start, ← Line.total_styled beforeWhole] at starts ends
  rw [eq_take_append_cons_drop covers.hasFragment, Line.styled_append, spans_append] at spans
  have inFragment := (spans_append.1 spans.2).1
  rw [Fragment.styled, eq_take_append_cons_drop covers.hasPart, List.map_append, spans_append,
    List.map_cons, Spans, total_map, Nat.zero_add] at inFragment
  exact inFragment.2.1 byte starts ends

end Listings
