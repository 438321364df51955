/-
This file says which lines a written list of lines names.
-/

import Listings.Directive.Reader
import Listings.Proofs.LineSet.Canonical
import Listings.Proofs.Notices
import Listings.Proofs.Text.Number
import Listings.Proofs.Text.Pieces

namespace Listings

open LineRange
open Text

theorem LineRange.read?_eq_some_iff {part : List Char} {range : LineRange} :
    read? part = some range ↔ ∃ low high a b, part = low ++ '-' :: high ∧ '-' ∉ low ∧ '-' ∉ high ∧
      readIndex? low = some a ∧ readIndex? high = some b ∧ range = between a b := by
  unfold read?
  constructor
  · intro found
    split at found
    · rename_i low high cut
      split at found
      · rename_i a b isLow isHigh
        cases found
        obtain ⟨whole, lowUnbroken, highUnbroken⟩ := pieces_eq_pair_iff.1 cut
        exact ⟨low, high, a, b, whole, lowUnbroken, highUnbroken, isLow, isHigh, rfl⟩
      · contradiction
    · contradiction
  · rintro ⟨low, high, a, b, whole, lowUnbroken, highUnbroken, isLow, isHigh, rfl⟩
    rw [pieces_eq_pair_iff.2 ⟨whole, lowUnbroken, highUnbroken⟩]
    dsimp only
    rw [isLow, isHigh]

namespace LineSet

/-- The part is the index of the line, or two indices around it with one `-` between them. -/
inductive Names : List Char → Nat → Prop
  | index {part : List Char} {line : Nat} (unbroken : '-' ∉ part) (isIndex : IsIndex part line) :
      Names part line
  | range {low high : List Char} {a b line : Nat} (lowUnbroken : '-' ∉ low)
      (highUnbroken : '-' ∉ high) (isLow : IsIndex low a) (isHigh : IsIndex high b)
      (above : min a b ≤ line) (below : line ≤ max a b) : Names (low ++ '-' :: high) line

theorem names_of_unbroken {part : List Char} (unbroken : '-' ∉ part) {line : Nat} :
    Names part line ↔ IsIndex part line := by
  constructor
  · intro names
    cases names with
    | index _ isIndex => exact isIndex
    | range => simp at unbroken
  · exact Names.index unbroken

/-- With a `-` in it, a part names lines only if that is the one between two indices. -/
theorem names_range_iff {low high : List Char} {line : Nat} :
    Names (low ++ '-' :: high) line ↔ ∃ a b, IsIndex low a ∧ IsIndex high b ∧
      min a b ≤ line ∧ line ≤ max a b := by
  have unbroken {text : List Char} {index : Nat} (isIndex : IsIndex text index) : '-' ∉ text :=
    isIndex.not_mem (by decide) (by decide)
  constructor
  · generalize whole : low ++ '-' :: high = part
    intro names
    cases names with
    | index none _ => simp [← whole] at none
    | @range first second a b _ firstUnbroken secondUnbroken isLow isHigh above below =>
        -- With one `-` in all, both ways to cut the part are the same.
        have once : (low ++ '-' :: high).count '-' = 1 := by
          rw [whole, List.count_append, List.count_cons_self,
            List.count_eq_zero.2 firstUnbroken, List.count_eq_zero.2 secondUnbroken]
        rw [List.count_append, List.count_cons_self] at once
        have lowUnbroken : '-' ∉ low := List.count_eq_zero.1 (by omega)
        have highUnbroken : '-' ∉ high := List.count_eq_zero.1 (by omega)
        have cut := pieces_eq_pair_iff.2 ⟨whole, firstUnbroken, secondUnbroken⟩
        rw [pieces_eq_pair_iff.2 ⟨rfl, lowUnbroken, highUnbroken⟩] at cut
        cases cut
        exact ⟨a, b, isLow, isHigh, above, below⟩
  · rintro ⟨a, b, isLow, isHigh, above, below⟩
    exact .range (unbroken isLow) (unbroken isHigh) isLow isHigh above below

theorem names_swap (low high : List Char) {line : Nat} :
    Names (low ++ '-' :: high) line ↔ Names (high ++ '-' :: low) line := by
  rw [names_range_iff, names_range_iff, exists_comm]
  refine exists₂_congr fun b a => ?_
  rw [and_left_comm, min_comm, max_comm]

theorem Names.ne_nil {part : List Char} {line : Nat} (names : Names part line) : part ≠ [] := by
  rintro rfl
  rw [names_of_unbroken List.not_mem_nil] at names
  obtain ⟨digits, written, numeral, _⟩ := names
  exact numeral.nonempty (by simpa using written.symm)

theorem contains_iff_names_of_read {part : List Char} {range : LineRange}
    (found : LineRange.read? part = some range) (line : Nat) :
    range.contains line = true ↔ Names part line := by
  obtain ⟨low, high, a, b, rfl, _, _, isLow, isHigh, rfl⟩ := LineRange.read?_eq_some_iff.1 found
  simp [contains_between, names_range_iff, isIndex_iff_of_read isLow, isIndex_iff_of_read isHigh]

theorem not_names_of_read {part : List Char} (broken : '-' ∈ part)
    (unread : LineRange.read? part = none) (line : Nat) : ¬ Names part line := by
  intro names
  cases names with
  | index unbroken _ => exact unbroken broken
  | @range low high a b _ lowUnbroken highUnbroken isLow isHigh _ _ =>
      obtain ⟨first, readLow, _⟩ := isLow.exists_read
      obtain ⟨second, readHigh, _⟩ := isHigh.exists_read
      have found := LineRange.read?_eq_some_iff.2
        ⟨low, high, first, second, rfl, lowUnbroken, highUnbroken, readLow, readHigh, rfl⟩
      rw [unread] at found
      contradiction

/-- A part is empty, names the lines of one range, or is reported. -/
theorem readPart_cases (part : List Char) :
    (part = [] ∧ readPart part = .inl none) ∨
    (∃ range : LineRange, readPart part = .inl (some range) ∧
      ∀ line, range.contains line = true ↔ Names part line) ∨
    (part ≠ [] ∧ (∀ line, ¬ Names part line) ∧ readPart part =
      .inr (if '-' ∈ part then .malformedRange (String.ofList part)
        else .malformedNumber (String.ofList part))) := by
  by_cases empty : part = []
  · subst empty
    exact .inl ⟨rfl, rfl⟩
  · refine .inr ?_
    have nonempty : part.isEmpty = false := List.isEmpty_eq_false_iff.2 empty
    unfold readPart
    rw [nonempty, if_neg Bool.false_ne_true]
    by_cases broken : '-' ∈ part
    · rw [if_pos (List.contains_iff_mem.2 broken), if_pos broken]
      cases found : LineRange.read? part with
      | some range => exact .inl ⟨range, rfl, contains_iff_names_of_read found⟩
      | none => exact .inr ⟨empty, not_names_of_read broken found, rfl⟩
    · rw [if_neg (mt List.contains_iff_mem.1 broken), if_neg broken]
      cases found : readIndex? part with
      | some index =>
          refine .inl ⟨_, rfl, fun line => ?_⟩
          rw [names_of_unbroken broken, isIndex_iff_of_read found, contains_between, Nat.min_self,
            Nat.max_self]
          omega
      | none =>
          refine .inr ⟨empty, fun line => ?_, rfl⟩
          rw [names_of_unbroken broken]
          exact not_isIndex_of_read found line

theorem contains_insertPart (set : LineSet) (part : List Char) (line : Nat) :
    (insertPart set part).value.contains line = true ↔
      Names part line ∨ set.contains line = true := by
  unfold insertPart
  rcases readPart_cases part with ⟨rfl, kind⟩ | ⟨range, kind, named⟩ | ⟨_, nothing, kind⟩
  · rw [kind]
    exact (or_iff_right fun names => names.ne_nil rfl).symm
  · rw [kind, ← named]
    dsimp only
    rw [contains_insertRange, Bool.or_eq_true, contains_between, contains_iff,
      Nat.min_eq_left range.ordered, Nat.max_eq_right range.ordered]
  · rw [kind]
    exact (or_iff_right (nothing line)).symm

theorem contains_foldl_insertPart (parts : List (List Char)) (set : LineSet) (line : Nat) :
    (parts.foldl (fun set part => (insertPart set part).value) set).contains line = true ↔
      (∃ part ∈ parts, Names part line) ∨ set.contains line = true := by
  induction parts generalizing set with
  | nil => simp
  | cons part rest inductionHypothesis =>
      rw [List.foldl_cons, inductionHypothesis, contains_insertPart, List.exists_mem_cons_iff]
      exact or_left_comm.trans or_assoc.symm

/-- A list of lines holds the lines that its parts name. -/
theorem contains_read (value : List Char) (line : Nat) :
    (read value).value.contains line = true ↔ ∃ part ∈ listParts value, Names part line := by
  rw [read, Reported.value_foldlM, contains_foldl_insertPart, contains_empty]
  simp

/-- Values whose parts name the same lines are the same list. -/
theorem read_eq_of_names {value other : List Char}
    (same : ∀ line, (∃ part ∈ listParts other, Names part line) ↔
      ∃ part ∈ listParts value, Names part line) :
    (read other).value = (read value).value := by
  rw [eq_iff_same_contains]
  intro line
  rw [Bool.eq_iff_iff, contains_read, contains_read]
  exact same line.toNat

theorem listParts_bracketed (list : List Char) :
    listParts ('[' :: list ++ [']']) = list.splitOn ',' := by
  rw [listParts, unwrap?_eq_some_iff.2 rfl, Option.getD_some, pieces_eq_splitOnP]
  rfl

theorem listParts_unbracketed {value : List Char}
    (unbracketed : ∀ list, value ≠ '[' :: list ++ [']']) :
    listParts value = value.splitOn ',' := by
  have kept : unwrap? '[' ']' value = none := by
    rw [Option.eq_none_iff_forall_ne_some]
    exact fun list unwraps => unbracketed list (unwrap?_eq_some_iff.1 unwraps)
  rw [listParts, kept, Option.getD_none, pieces_eq_splitOnP]
  rfl

/-- A list holds exactly the lines that its parts name, so that neither the order of the parts
matters, nor which index of a range comes first, nor a part that names nothing, nor brackets. -/
theorem read_contains_exactly_named_lines (value : List Char) :
    let lines (value : List Char) := (read value).value
    (∀ list, value = '[' :: list ++ [']'] → listParts value = list.splitOn ',') ∧
    ((∀ list, value ≠ '[' :: list ++ [']']) → listParts value = value.splitOn ',') ∧
    (∀ line, (lines value).contains line = true ↔
      ∃ part ∈ listParts value, part ≠ [] ∧ Names part line) ∧
    (∀ other, (∀ part, (∃ line, Names part line) →
        (part ∈ listParts other ↔ part ∈ listParts value)) → lines other = lines value) ∧
    (∀ other, ((listParts other).filter (· ≠ [])).Perm ((listParts value).filter (· ≠ [])) →
      lines other = lines value) ∧
    (∀ other before low high after, listParts value = before ++ (low ++ '-' :: high) :: after →
      listParts other = before ++ (high ++ '-' :: low) :: after → lines other = lines value) ∧
    ((∀ list, value ≠ '[' :: list ++ [']']) → lines ('[' :: value ++ [']']) = lines value) ∧
    -- Every list of parts can be written.
    ∀ parts : List (List Char), parts ≠ [] → (∀ part ∈ parts, ',' ∉ part) →
      listParts ('[' :: [','].intercalate parts ++ [']']) = parts := by
  intro lines
  have naming : ∀ other, (∀ part, (∃ line, Names part line) →
      (part ∈ listParts other ↔ part ∈ listParts value)) → lines other = lines value := by
    intro other same
    refine read_eq_of_names fun line => exists_congr fun part => ?_
    exact and_congr_left fun names => same part ⟨line, names⟩
  refine ⟨?_, listParts_unbracketed, ?_, naming, ?_, ?_, ?_, ?_⟩
  · rintro list rfl
    exact listParts_bracketed list
  · intro line
    rw [contains_read]
    refine exists_congr fun part => and_congr_right fun _ => ?_
    exact (and_iff_right_of_imp Names.ne_nil).symm
  · intro other reordered
    apply naming
    rintro part ⟨line, names⟩
    have members := reordered.mem_iff (a := part)
    simpa [List.mem_filter, names.ne_nil] using members
  · intro other before low high after isValue isOther
    apply read_eq_of_names
    intro line
    rw [isValue, isOther]
    simp only [List.mem_append, List.mem_cons, or_and_right, exists_or, exists_eq_left,
      names_swap high low]
  · intro unbracketed
    apply read_eq_of_names
    intro line
    rw [listParts_bracketed, listParts_unbracketed unbracketed]
  · intro parts nonempty separated
    rw [listParts_bracketed, List.splitOn_intercalate ',' separated nonempty]

theorem read_contains_exactly_named_lines_of_disordered_parts :
    (read "[3-1,9-x,,+7]".toList).value.contains 2 = true ∧
    (read "+7,3-1,9-x".toList).value = (read "[3-1,9-x,,+7]".toList).value ∧
    (read "1-3,9-x,,+7".toList).value = (read "[3-1,9-x,,+7]".toList).value := by
  obtain ⟨_, _, named, _, reordered, swapped, _, _⟩ :=
    read_contains_exactly_named_lines "[3-1,9-x,,+7]".toList
  refine ⟨?_, reordered _ (by decide), ?_⟩
  · have isLow : IsIndex "3".toList 3 :=
      readIndex?_eq_some_iff.1 (by decide : readIndex? "3".toList = some 3)
    have isHigh : IsIndex "1".toList 1 :=
      readIndex?_eq_some_iff.1 (by decide : readIndex? "1".toList = some 1)
    refine (named 2).2 ⟨"3-1".toList, by decide, by decide, ?_⟩
    exact .range (by decide) (by decide) isLow isHigh (by decide) (by decide)
  · exact swapped _ [] "3".toList "1".toList ["9-x".toList, [], "+7".toList] (by decide) (by decide)

end LineSet

end Listings
