/-
This file says for which texts lower case changes no other letters than `A` to `Z`.
-/

import Listings.Text.Case
import Mathlib.Data.List.Basic

namespace Listings.Text

theorem sameIgnoringAsciiCase_iff {a b : String} :
    sameIgnoringAsciiCase a b = true ↔ a.toList.map lowerAscii = b.toList.map lowerAscii :=
  beq_iff_eq

theorem sameIgnoringAsciiCase_self (text : String) : sameIgnoringAsciiCase text text = true :=
  sameIgnoringAsciiCase_iff.2 rfl

theorem isUpperAscii_iff {c : Char} :
    ('A' ≤ c && c ≤ 'Z') = true ↔ 0x41 ≤ c.toNat ∧ c.toNat ≤ 0x5A := by
  rw [Bool.and_eq_true, decide_eq_true_iff, decide_eq_true_iff]
  exact and_congr UInt32.le_iff_toNat_le UInt32.le_iff_toNat_le

/-- The offset of the letters `A` to `Z` leads to the letters `a` to `z`. -/
theorem lowerAscii_cases (c : Char) :
    (0x41 ≤ c.toNat ∧ c.toNat ≤ 0x5A ∧ lowerAscii c = Char.ofNat (c.toNat + 32)) ∨
      (¬ (0x41 ≤ c.toNat ∧ c.toNat ≤ 0x5A) ∧ lowerAscii c = c) := by
  rw [lowerAscii]
  split
  · rename_i upper
    rw [isUpperAscii_iff] at upper
    exact Or.inl ⟨upper.1, upper.2, rfl⟩
  · rename_i upper
    rw [isUpperAscii_iff] at upper
    exact Or.inr ⟨upper, rfl⟩

theorem lowerAscii_of_wide {c : Char} (wide : 128 ≤ c.toNat) : lowerAscii c = c := by
  rcases lowerAscii_cases c with ⟨_, small, _⟩ | ⟨_, same⟩
  · omega
  · exact same

theorem toNat_ofNat_of_ascii : ∀ code < 128, (Char.ofNat code).toNat = code := by decide

theorem lowerAscii_lt_iff (c : Char) : (lowerAscii c).toNat < 128 ↔ c.toNat < 128 := by
  rcases lowerAscii_cases c with ⟨_, small, same⟩ | ⟨_, same⟩
  · rw [same, toNat_ofNat_of_ascii _ (by omega)]
    omega
  · rw [same]

/-- Beyond ASCII no two characters differ in the case of `a` to `z`. -/
theorem lowerAscii_eq_iff_of_wide {c other : Char} (wide : 128 ≤ c.toNat) :
    lowerAscii other = c ↔ other = c := by
  constructor
  · intro same
    have otherWide : 128 ≤ other.toNat := by
      have narrow := lowerAscii_lt_iff other
      rw [same] at narrow
      omega
    rw [← same, lowerAscii_of_wide otherWide]
  · rintro rfl
    exact lowerAscii_of_wide wide

theorem lowerAscii_lowerAscii (c : Char) : lowerAscii (lowerAscii c) = lowerAscii c := by
  rcases lowerAscii_cases c with ⟨large, small, same⟩ | ⟨_, same⟩
  · have code : (lowerAscii c).toNat = c.toNat + 32 := by
      rw [same, toNat_ofNat_of_ascii _ (by omega)]
    rcases lowerAscii_cases (lowerAscii c) with ⟨_, again, _⟩ | ⟨_, fixed⟩
    · omega
    · exact fixed
  · rw [same, same]

/-- A character by itself in lower case. -/
def lowered (c : Char) : List Char := mapCase lowerShifts lowerExpansions c

theorem first_of_mem_tail_lowerShifts :
    ∀ shift ∈ lowerShifts.toList.tail, 128 ≤ shift.first := by decide +kernel

/-- Of the shifts only that of `A` to `Z` is about ASCII. -/
theorem find?_lowerShifts_of_ascii {c : Char} (narrow : c.toNat < 128) :
    lowerShifts.find? (fun shift => shift.covers c.toNat) =
      if 'A' ≤ c && c ≤ 'Z' then some ⟨0x41, 0x5A, 1, 32⟩ else none := by
  have split : lowerShifts.toList = ⟨0x41, 0x5A, 1, 32⟩ :: lowerShifts.toList.tail := rfl
  have others : lowerShifts.toList.tail.find? (fun shift => shift.covers c.toNat) = none := by
    rw [List.find?_eq_none]
    intro shift member covered
    have large := first_of_mem_tail_lowerShifts shift member
    simp only [CaseShift.covers, Bool.and_eq_true, decide_eq_true_iff] at covered
    omega
  have covers : CaseShift.covers ⟨0x41, 0x5A, 1, 32⟩ c.toNat = ('A' ≤ c && c ≤ 'Z') := by
    rw [Bool.eq_iff_iff, isUpperAscii_iff]
    simp [CaseShift.covers, Nat.mod_one]
  rw [← Array.find?_toList, split, List.find?_cons, others, covers]
  cases 'A' ≤ c && c ≤ 'Z' <;> rfl

theorem find?_lowerExpansions_of_ascii {c : Char} (narrow : c.toNat < 128) :
    lowerExpansions.find? (fun entry => entry.1 == c.toNat) = none := by
  rw [← Array.find?_toList, List.find?_eq_none]
  intro entry member
  have large : ∀ entry ∈ lowerExpansions.toList, 128 ≤ entry.1 := by decide
  have := large entry member
  simp only [beq_iff_eq]
  omega

theorem lowered_of_ascii {c : Char} (narrow : c.toNat < 128) : lowered c = [lowerAscii c] := by
  rw [lowered, mapCase, find?_lowerExpansions_of_ascii narrow, find?_lowerShifts_of_ascii narrow,
    lowerAscii]
  cases 'A' ≤ c && c ≤ 'Z' <;> rfl

theorem lowered_ne_nil (c : Char) : lowered c ≠ [] := by
  have expanded : ∀ entry ∈ lowerExpansions.toList, entry.2 ≠ [] := by decide
  rw [lowered, mapCase]
  split
  · rename_i entry found
    rw [← Array.find?_toList] at found
    simpa using expanded entry (List.mem_of_find?_eq_some found)
  · split <;> exact List.cons_ne_nil _ _

/-- All capitals in the text are those of ASCII; every other character is its own lower case. -/
def OnlyAsciiCapitals (text : List Char) : Prop := ∀ c ∈ text, 128 ≤ c.toNat → lowered c = [c]

instance (text : List Char) : Decidable (OnlyAsciiCapitals text) :=
  List.decidableBAll (fun c : Char => 128 ≤ c.toNat → lowered c = [c]) text

theorem map_lowered_eq_iff (c : Char) :
    (lowered c).map lowerAscii = [lowerAscii c] ↔ (128 ≤ c.toNat → lowered c = [c]) := by
  by_cases narrow : c.toNat < 128
  · rw [lowered_of_ascii narrow, List.map_singleton, lowerAscii_lowerAscii]
    exact iff_of_true rfl fun wide => absurd narrow (Nat.not_lt.2 wide)
  · have wide : 128 ≤ c.toNat := Nat.not_lt.1 narrow
    rw [lowerAscii_of_wide wide, forall_prop_of_true wide, List.map_eq_singleton_iff]
    simp only [lowerAscii_eq_iff_of_wide wide, exists_eq_right]

theorem lowered_sigma : lowered 'Σ' = ['σ'] := by decide +kernel

/-- What stands around a character matters to its lower case only if it is a capital sigma. -/
theorem lowerAfter_cons (before : List Char) (c : Char) (rest : List Char) :
    ∃ piece, lowerAfter before (c :: rest) = piece ++ lowerAfter (c :: before) rest ∧
      0 < piece.length ∧
      (piece.map lowerAscii = [lowerAscii c] ↔ (128 ≤ c.toNat → lowered c = [c])) := by
  refine ⟨_, rfl, ?_⟩
  split
  · rename_i endsWord
    have isSigma : c = 'Σ' := beq_iff_eq.1 (Bool.and_eq_true_iff.1 endsWord).1
    rw [isSigma, lowered_sigma]
    decide
  · exact ⟨List.length_pos_iff.2 (lowered_ne_nil c), map_lowered_eq_iff c⟩

theorem length_le_length_lowerAfter (before text : List Char) :
    text.length ≤ (lowerAfter before text).length := by
  induction text generalizing before with
  | nil => exact Nat.le_refl 0
  | cons c rest inductionHypothesis =>
      obtain ⟨piece, split, nonempty, _⟩ := lowerAfter_cons before c rest
      have further := inductionHypothesis (c :: before)
      rw [split, List.length_append, List.length_cons]
      omega

/-- A text in lower case is the same up to the case of `a` to `z` exactly if it has no
other capitals. -/
theorem map_lowerAfter_eq_iff (before text : List Char) :
    (lowerAfter before text).map lowerAscii = text.map lowerAscii ↔ OnlyAsciiCapitals text := by
  induction text generalizing before with
  | nil => exact iff_of_true rfl nofun
  | cons c rest inductionHypothesis =>
      obtain ⟨piece, split, nonempty, first⟩ := lowerAfter_cons before c rest
      rw [split, OnlyAsciiCapitals, List.forall_mem_cons, ← first, ← OnlyAsciiCapitals,
        ← inductionHypothesis (c :: before), List.map_append, List.map_cons]
      constructor
      · intro same
        -- A character that becomes several makes the text longer, and nothing makes it shorter.
        have single : piece.length = 1 := by
          have longer := length_le_length_lowerAfter (c :: before) rest
          have lengths := congrArg List.length same
          simp only [List.length_append, List.length_map, List.length_cons] at lengths
          omega
        exact List.append_inj same ((List.length_map _).trans single)
      · rintro ⟨sameFirst, sameRest⟩
        rw [sameFirst, sameRest, List.singleton_append]

theorem sameIgnoringAsciiCase_lower_iff (name : String) :
    sameIgnoringAsciiCase (String.ofList (lower name.toList)) name = true ↔
      OnlyAsciiCapitals name.toList := by
  rw [sameIgnoringAsciiCase_iff, String.toList_ofList]
  exact map_lowerAfter_eq_iff [] name.toList

end Listings.Text
