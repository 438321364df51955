/-
This file says which texts are line indices, and which index each of them is.
-/

import Listings.Text.Number
import Mathlib.Data.Nat.Digits.Defs

namespace Listings.Text

/-- One or more decimal digits with a value, the last of them counting ones. -/
structure IsNumeral (digits : List Char) (value : Nat) : Prop where
  nonempty : digits ≠ []
  decimal : ∀ c ∈ digits, c.isDigit = true
  counts : Nat.ofDigits 10 (digits.reverse.map fun c => c.toNat - '0'.toNat) = value

/-- A numeral, perhaps after one `+`, with a value below `2 ^ 64`. -/
def IsIndex (text : List Char) (index : Nat) : Prop :=
  ∃ digits, (text = digits ∨ text = '+' :: digits) ∧ IsNumeral digits index ∧ index < 2 ^ 64

theorem decimalValue_eq_ofDigits (digits : List Char) :
    decimalValue digits = Nat.ofDigits 10 (digits.reverse.map fun c => c.toNat - '0'.toNat) := by
  have step : (fun value c => 10 * value + digitValue c) =
      fun (value : Nat) (c : Char) => c.toNat - '0'.toNat + 10 * value := by
    funext value c
    exact Nat.add_comm _ _
  rw [Nat.ofDigits_eq_foldr, List.foldr_map, List.foldr_reverse, decimalValue, step]
  rfl

/-- The index that digits without a sign stand for. -/
def readDigits? (digits : List Char) : Option UInt64 :=
  if !digits.isEmpty && digits.all isDigit && decimalValue digits < UInt64.size then
    some (UInt64.ofNat (decimalValue digits))
  else none

theorem readDigits?_eq_some_iff {digits : List Char} {index : UInt64} :
    readDigits? digits = some index ↔ IsNumeral digits index.toNat := by
  unfold readDigits?
  constructor
  · intro found
    split at found
    · rename_i conditions
      simp only [Bool.and_eq_true, Bool.not_eq_true', List.isEmpty_eq_false_iff,
        List.all_eq_true, decide_eq_true_iff] at conditions
      obtain ⟨⟨nonempty, decimal⟩, small⟩ := conditions
      cases found
      refine ⟨nonempty, decimal, ?_⟩
      rw [← decimalValue_eq_ofDigits, UInt64.toNat_ofNat_of_lt' small]
    · contradiction
  · rintro ⟨nonempty, decimal, counts⟩
    rw [← decimalValue_eq_ofDigits] at counts
    have conditions : (!digits.isEmpty && digits.all isDigit &&
        decimalValue digits < UInt64.size) = true := by
      simp only [Bool.and_eq_true, Bool.not_eq_true', List.isEmpty_eq_false_iff,
        List.all_eq_true, decide_eq_true_iff]
      exact ⟨⟨nonempty, decimal⟩, counts ▸ index.toNat_lt⟩
    rw [if_pos conditions, counts, UInt64.ofNat_toNat]

theorem readIndex?_plus (digits : List Char) :
    readIndex? ('+' :: digits) = readDigits? digits := rfl

theorem readIndex?_of_unsigned {text : List Char} (unsigned : ∀ digits, text ≠ '+' :: digits) :
    readIndex? text = readDigits? text := by
  unfold readIndex?
  split
  · rename_i rest
    exact absurd rfl (unsigned rest)
  · rfl

theorem IsNumeral.unsigned {digits : List Char} {value : Nat} (numeral : IsNumeral digits value)
    (rest : List Char) : digits ≠ '+' :: rest := by
  rintro rfl
  exact absurd (numeral.decimal '+' (by simp)) (by decide)

/-- A text is read exactly where it is an index, as the index that it is. -/
theorem readIndex?_eq_some_iff {text : List Char} {index : UInt64} :
    readIndex? text = some index ↔ IsIndex text index.toNat := by
  constructor
  · intro found
    by_cases signed : ∃ digits, text = '+' :: digits
    · obtain ⟨digits, rfl⟩ := signed
      rw [readIndex?_plus, readDigits?_eq_some_iff] at found
      exact ⟨digits, .inr rfl, found, index.toNat_lt⟩
    · rw [readIndex?_of_unsigned (not_exists.1 signed), readDigits?_eq_some_iff] at found
      exact ⟨text, .inl rfl, found, index.toNat_lt⟩
  · rintro ⟨digits, rfl | rfl, numeral, _⟩
    · rw [readIndex?_of_unsigned numeral.unsigned, readDigits?_eq_some_iff.2 numeral]
    · rw [readIndex?_plus, readDigits?_eq_some_iff.2 numeral]

theorem IsIndex.exists_read {text : List Char} {index : Nat} (isIndex : IsIndex text index) :
    ∃ read : UInt64, readIndex? text = some read ∧ index = read.toNat := by
  obtain ⟨digits, written, numeral, small⟩ := isIndex
  refine ⟨UInt64.ofNatLT index small, ?_, (UInt64.toNat_ofNatLT ..).symm⟩
  rw [readIndex?_eq_some_iff, UInt64.toNat_ofNatLT]
  exact ⟨digits, written, numeral, small⟩

theorem isIndex_iff_of_read {text : List Char} {read : UInt64} (found : readIndex? text = some read)
    {index : Nat} : IsIndex text index ↔ index = read.toNat := by
  constructor
  · intro isIndex
    obtain ⟨other, again, rfl⟩ := isIndex.exists_read
    rw [found, Option.some.injEq] at again
    rw [again]
  · rintro rfl
    exact readIndex?_eq_some_iff.1 found

theorem not_isIndex_of_read {text : List Char} (unread : readIndex? text = none) (index : Nat) :
    ¬ IsIndex text index := by
  intro isIndex
  obtain ⟨read, found, _⟩ := isIndex.exists_read
  rw [unread] at found
  contradiction

/-- An index holds no characters but digits and the sign. -/
theorem IsIndex.not_mem {text : List Char} {index : Nat} (isIndex : IsIndex text index) {c : Char}
    (noDigit : c.isDigit = false) (noSign : c ≠ '+') : c ∉ text := by
  obtain ⟨digits, written, numeral, _⟩ := isIndex
  have notInDigits : c ∉ digits := by
    intro member
    rw [numeral.decimal c member] at noDigit
    contradiction
  obtain rfl | rfl := written
  · exact notInDigits
  · simp [noSign, notInDigits]

end Listings.Text
