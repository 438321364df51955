/-
This file holds sets of line indices as merged, ascending ranges.
-/

import Listings.PartitionPoint

namespace Listings

/-- All indices from `first` to `last`, both included. -/
structure LineRange where
  first : UInt64
  last : UInt64
  first_le_last : first ≤ last
deriving DecidableEq

namespace LineRange

theorem ordered (range : LineRange) : range.first.toNat ≤ range.last.toNat :=
  UInt64.le_iff_toNat_le.1 range.first_le_last

theorem toNat_min (a b : UInt64) : (min a b).toNat = min a.toNat b.toNat := by
  change (if a ≤ b then a else b).toNat = _
  split <;> rename_i order <;> rw [UInt64.le_iff_toNat_le] at order <;> omega

theorem toNat_max (a b : UInt64) : (max a b).toNat = max a.toNat b.toNat := by
  change (if a ≤ b then b else a).toNat = _
  split <;> rename_i order <;> rw [UInt64.le_iff_toNat_le] at order <;> omega

/-- The end points may come in either order. -/
def between (a b : UInt64) : LineRange :=
  ⟨min a b, max a b, by
    rw [UInt64.le_iff_toNat_le, toNat_min, toNat_max]
    omega⟩

/-- No range contains a line past the greatest index. -/
def contains (range : LineRange) (line : Nat) : Bool :=
  range.first.toNat ≤ line && line ≤ range.last.toNat

/-- At least one index lies strictly between the two ranges. -/
def Before (a b : LineRange) : Prop := a.last.toNat + 1 < b.first.toNat

instance (a b : LineRange) : Decidable (Before a b) :=
  inferInstanceAs (Decidable (_ < _))

def greatestIndex : UInt64 := 18446744073709551615

/-- The greatest index has no index after it and stays as it is. -/
def nextIndex (index : UInt64) : UInt64 :=
  if index = greatestIndex then index else index + 1

theorem toNat_nextIndex (index : UInt64) :
    (nextIndex index).toNat = min (index.toNat + 1) greatestIndex.toNat := by
  have bound := index.toNat_lt
  have greatest : greatestIndex.toNat = 18446744073709551615 := rfl
  unfold nextIndex
  split
  · rename_i isGreatest
    rw [isGreatest, greatest]
    omega
  · rename_i notGreatest
    have smaller : index.toNat ≠ 18446744073709551615 := fun same =>
      notGreatest (UInt64.toNat_inj.1 (same.trans greatest.symm))
    rw [UInt64.toNat_add, UInt64.toNat_one, greatest]
    omega

/-- No index lies between the end of the first range and the start of the second. -/
def reaches (last range : LineRange) : Bool := range.first ≤ nextIndex last.last

/-- A range that starts no earlier can only move the end. -/
def extend (last range : LineRange) : LineRange :=
  if longer : last.last < range.last then
    ⟨last.first, range.last, by
      have := last.ordered
      rw [UInt64.lt_iff_toNat_lt] at longer
      rw [UInt64.le_iff_toNat_le]
      omega⟩
  else last

/-- The order of the starts; equal starts may come either way. -/
def startsBefore (a b : LineRange) : Bool := a.first ≤ b.first

theorem startsBefore_iff {a b : LineRange} :
    a.startsBefore b = true ↔ a.first.toNat ≤ b.first.toNat := by
  rw [startsBefore, decide_eq_true_iff, UInt64.le_iff_toNat_le]

/-- The sum with one cannot wrap: beyond the greatest index nothing can start. -/
theorem reaches_iff {last range : LineRange} :
    last.reaches range = true ↔ range.first.toNat ≤ last.last.toNat + 1 := by
  have bound := range.first.toNat_lt
  have greatest : greatestIndex.toNat = 18446744073709551615 := rfl
  rw [reaches, decide_eq_true_iff, UInt64.le_iff_toNat_le, toNat_nextIndex, greatest]
  omega

theorem before_of_not_reaches {last range : LineRange}
    (apart : ¬ last.reaches range = true) : Before last range :=
  Nat.lt_of_not_le (mt reaches_iff.2 apart)

@[simp] theorem extend_first (last range : LineRange) :
    (last.extend range).first = last.first := by
  unfold extend
  split <;> rfl

theorem extend_last (last range : LineRange) :
    (last.extend range).last.toNat = max last.last.toNat range.last.toNat := by
  unfold extend
  split
  · rename_i longer
    exact (Nat.max_eq_right (Nat.le_of_lt (UInt64.lt_iff_toNat_lt.1 longer))).symm
  · rename_i notLonger
    rw [UInt64.lt_iff_toNat_lt] at notLonger
    exact (Nat.max_eq_left (Nat.le_of_not_lt notLonger)).symm

end LineRange

open LineRange

/-- Ranges that touch or overlap count as one, so equal sets have equal ranges. -/
structure LineSet where
  ranges : List LineRange
  apart : ranges.Pairwise LineRange.Before
deriving DecidableEq

namespace LineSet

/-- The ranges stand in the order of their starts but may overlap. -/
def Ascending (ranges : List LineRange) : Prop :=
  ranges.Pairwise fun a b => a.startsBefore b = true

/-- The last range so far grows for as long as it reaches the next one. -/
def mergeFrom (last : LineRange) : List LineRange → List LineRange
  | [] => [last]
  | range :: rest =>
      if last.reaches range then mergeFrom (last.extend range) rest
      else last :: mergeFrom range rest

/-- Merges ranges that stand in the order of their starts. -/
def merge : List LineRange → List LineRange
  | [] => []
  | first :: rest => mergeFrom first rest

/-- The start of the last range does not change while it grows. -/
theorem ascending_extend {last range : LineRange} {rest : List LineRange}
    (ascending : Ascending (last :: range :: rest)) : Ascending (last.extend range :: rest) := by
  obtain ⟨lastFirst, restAscending⟩ := List.pairwise_cons.1 ascending
  refine List.pairwise_cons.2 ⟨?_, (List.pairwise_cons.1 restAscending).2⟩
  intro other member
  have starts := lastFirst other (List.mem_cons_of_mem _ member)
  rwa [startsBefore, extend_first]

theorem before_mergeFrom {low last : LineRange} {rest : List LineRange}
    (before : Before low last) (ascending : Ascending (last :: rest)) :
    ∀ other ∈ mergeFrom last rest, Before low other := by
  induction rest generalizing last with
  | nil => simpa [mergeFrom] using before
  | cons range rest inductionHypothesis =>
      rw [mergeFrom]
      split
      · refine inductionHypothesis ?_ (ascending_extend ascending)
        rwa [Before, extend_first]
      · intro other member
        have starts := startsBefore_iff.1 ((List.pairwise_cons.1 ascending).1 range (by simp))
        have beforeRange : Before low range := Nat.lt_of_lt_of_le before starts
        rcases List.mem_cons.1 member with rfl | member
        · exact before
        · exact inductionHypothesis beforeRange (List.pairwise_cons.1 ascending).2 other member

theorem mergeFrom_apart {last : LineRange} {rest : List LineRange}
    (ascending : Ascending (last :: rest)) : (mergeFrom last rest).Pairwise Before := by
  induction rest generalizing last with
  | nil => simp [mergeFrom]
  | cons range rest inductionHypothesis =>
      have restAscending : Ascending (range :: rest) := (List.pairwise_cons.1 ascending).2
      rw [mergeFrom]
      split
      · exact inductionHypothesis (ascending_extend ascending)
      · rename_i gap
        exact List.pairwise_cons.2
          ⟨before_mergeFrom (before_of_not_reaches gap) restAscending,
            inductionHypothesis restAscending⟩

theorem merge_apart {ranges : List LineRange} (ascending : Ascending ranges) :
    (merge ranges).Pairwise Before := by
  cases ranges with
  | nil => exact List.Pairwise.nil
  | cons first rest => exact mergeFrom_apart ascending

/-- The ranges of a set together with one more, in the order of their starts. -/
def sortedWith (range : LineRange) (ranges : List LineRange) : List LineRange :=
  (ranges ++ [range]).mergeSort startsBefore

theorem ascending_sortedWith (range : LineRange) (ranges : List LineRange) :
    Ascending (sortedWith range ranges) := by
  refine List.pairwise_mergeSort ?_ ?_ (ranges ++ [range])
  · intro a b c first second
    rw [startsBefore_iff] at *
    exact Nat.le_trans first second
  · intro a b
    rw [Bool.or_eq_true, startsBefore_iff, startsBefore_iff]
    exact Nat.le_total _ _

def empty : LineSet := ⟨[], List.Pairwise.nil⟩

instance : EmptyCollection LineSet := ⟨empty⟩
instance : Inhabited LineSet := ⟨empty⟩

def insertRange (a b : UInt64) (set : LineSet) : LineSet :=
  ⟨merge (sortedWith (between a b) set.ranges), merge_apart (ascending_sortedWith _ _)⟩

def insert (line : UInt64) (set : LineSet) : LineSet := set.insertRange line line

def ofList (lines : List UInt64) : LineSet :=
  lines.foldl (fun set line => set.insert line) empty

/-- Only the first range that does not end before the line can contain it. -/
def contains (set : LineSet) (line : Nat) : Bool :=
  let index := partitionPoint (fun range => range.last.toNat < line) set.ranges
  match set.ranges[index]? with
  | some range => range.contains line
  | none => false

def isEmpty (set : LineSet) : Bool := set.ranges.isEmpty

end LineSet

end Listings
