/-
This file cuts text at the boundaries of its characters, counted in bytes.
-/

import Listings.Text.Bytes
import Mathlib.Data.List.Infix

namespace Listings.Text

@[simp] theorem byteLength_nil : byteLength [] = 0 := rfl

@[simp] theorem byteLength_cons (c : Char) (text : List Char) :
    byteLength (c :: text) = c.utf8Size + byteLength text := rfl

@[simp] theorem byteLength_append (text more : List Char) :
    byteLength (text ++ more) = byteLength text + byteLength more := by
  induction text with
  | nil => exact (Nat.zero_add _).symm
  | cons c rest inductionHypothesis =>
      rw [List.cons_append, byteLength_cons, byteLength_cons, inductionHypothesis, Nat.add_assoc]

theorem eq_nil_of_byteLength_eq_zero {text : List Char} (empty : byteLength text = 0) :
    text = [] := by
  cases text with
  | nil => rfl
  | cons c rest =>
      rw [byteLength_cons] at empty
      have positive := c.utf8Size_pos
      omega

/-- The bytes of some beginning of the text. -/
def IsBoundary (byte : Nat) (text : List Char) : Prop :=
  ∃ before, before <+: text ∧ byteLength before = byte

theorem isBoundary_zero (text : List Char) : IsBoundary 0 text :=
  ⟨[], List.nil_prefix, rfl⟩

theorem isBoundary_byteLength (text : List Char) : IsBoundary (byteLength text) text :=
  ⟨text, List.prefix_rfl, rfl⟩

theorem IsBoundary.le {byte : Nat} {text : List Char} (boundary : IsBoundary byte text) :
    byte ≤ byteLength text := by
  obtain ⟨before, ⟨after, rfl⟩, rfl⟩ := boundary
  rw [byteLength_append]
  exact Nat.le_add_right _ _

theorem takeBytes_append (before after : List Char) :
    takeBytes (byteLength before) (before ++ after) = before := by
  induction before with
  | nil =>
      cases after with
      | nil => rfl
      | cons c rest =>
          rw [List.nil_append, byteLength_nil, takeBytes, if_neg (Nat.not_le.2 c.utf8Size_pos)]
  | cons c rest inductionHypothesis =>
      rw [List.cons_append, takeBytes, byteLength_cons, if_pos (Nat.le_add_right _ _),
        Nat.add_sub_cancel_left, inductionHypothesis]

theorem dropBytes_append (before after : List Char) :
    dropBytes (byteLength before) (before ++ after) = after := by
  induction before with
  | nil =>
      cases after with
      | nil => rfl
      | cons c rest =>
          rw [List.nil_append, byteLength_nil, dropBytes, if_neg (Nat.not_le.2 c.utf8Size_pos)]
  | cons c rest inductionHypothesis =>
      rw [List.cons_append, dropBytes, byteLength_cons, if_pos (Nat.le_add_right _ _),
        Nat.add_sub_cancel_left, inductionHypothesis]

/-- The shorter one of two beginnings of a text is a beginning of the longer one. -/
theorem prefix_of_byteLength_le {text first second : List Char} (firstBegins : first <+: text)
    (secondBegins : second <+: text) (le : byteLength first ≤ byteLength second) :
    first <+: second := by
  rcases List.prefix_or_prefix_of_prefix firstBegins secondBegins with before | after
  · exact before
  · obtain ⟨more, rfl⟩ := after
    rw [byteLength_append] at le
    have nothing : more = [] := eq_nil_of_byteLength_eq_zero (by omega)
    rw [nothing, List.append_nil]

/-- Two boundaries cut a text in three. -/
theorem exists_append_of_isBoundary {text : List Char} {first last : Nat}
    (firstBoundary : IsBoundary first text) (lastBoundary : IsBoundary last text)
    (le : first ≤ last) : ∃ before between after, text = before ++ between ++ after ∧
      byteLength before = first ∧ byteLength (before ++ between) = last := by
  obtain ⟨before, firstBegins, rfl⟩ := firstBoundary
  obtain ⟨start, lastBegins, rfl⟩ := lastBoundary
  obtain ⟨between, rfl⟩ := prefix_of_byteLength_le firstBegins lastBegins le
  obtain ⟨after, rfl⟩ := lastBegins
  exact ⟨before, between, after, rfl, rfl, rfl⟩

theorem slice_append (before between after : List Char) :
    slice (byteLength before) (byteLength (before ++ between)) (before ++ between ++ after) =
      between := by
  rw [slice, List.append_assoc, dropBytes_append, byteLength_append, Nat.add_sub_cancel_left,
    takeBytes_append]

section Boundaries

variable {text : List Char} {first middle last : Nat}

theorem byteLength_slice (firstBoundary : IsBoundary first text)
    (lastBoundary : IsBoundary last text) (le : first ≤ last) :
    byteLength (slice first last text) = last - first := by
  obtain ⟨before, between, after, rfl, rfl, rfl⟩ :=
    exists_append_of_isBoundary firstBoundary lastBoundary le
  rw [slice_append, byteLength_append, Nat.add_sub_cancel_left]

/-- Slices that follow each other make one. -/
theorem slice_append_slice (firstBoundary : IsBoundary first text)
    (middleBoundary : IsBoundary middle text) (lastBoundary : IsBoundary last text)
    (firstLe : first ≤ middle) (middleLe : middle ≤ last) :
    slice first middle text ++ slice middle last text = slice first last text := by
  obtain ⟨before, begins, rfl⟩ := firstBoundary
  obtain ⟨beforeMiddle, middleBegins, rfl⟩ := middleBoundary
  obtain ⟨beforeLast, lastBegins, rfl⟩ := lastBoundary
  obtain ⟨rest, rfl⟩ := prefix_of_byteLength_le middleBegins lastBegins middleLe
  obtain ⟨start, rfl⟩ := prefix_of_byteLength_le begins middleBegins firstLe
  obtain ⟨after, rfl⟩ := lastBegins
  have startSlice := slice_append before start (rest ++ after)
  have endSlice := slice_append (before ++ start) rest after
  have bothSlice := slice_append before (start ++ rest) after
  simp only [← List.append_assoc] at startSlice bothSlice
  rw [startSlice, endSlice, bothSlice]

theorem slice_zero_byteLength (text : List Char) : slice 0 (byteLength text) text = text := by
  have whole := slice_append [] text []
  rwa [List.nil_append, List.append_nil] at whole

end Boundaries

/-- A boundary behind a text gives way to its end. -/
theorem isBoundary_min {byte : Nat} {text more : List Char}
    (boundary : IsBoundary byte (text ++ more)) :
    IsBoundary (min byte (byteLength text)) text := by
  obtain ⟨before, begins, rfl⟩ := boundary
  rcases Nat.le_total (byteLength before) (byteLength text) with le | ge
  · rw [Nat.min_eq_left le]
    exact ⟨before, prefix_of_byteLength_le begins (List.prefix_append text more) le, rfl⟩
  · rw [Nat.min_eq_right ge]
    exact isBoundary_byteLength text

end Listings.Text
