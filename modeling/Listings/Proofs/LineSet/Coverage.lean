/-
This file shows that a set of lines contains exactly the lines that its steps cover.
-/

import Listings.LineSet

namespace Listings

open LineRange

namespace LineRange

theorem contains_iff {range : LineRange} {line : Nat} :
    range.contains line = true ↔ range.first.toNat ≤ line ∧ line ≤ range.last.toNat := by
  rw [contains, Bool.and_eq_true, decide_eq_true_iff, decide_eq_true_iff]

theorem contains_between {a b : UInt64} {line : Nat} :
    (between a b).contains line = true ↔
      min a.toNat b.toNat ≤ line ∧ line ≤ max a.toNat b.toNat := by
  rw [contains_iff, between, toNat_min, toNat_max]

/-- A range that reaches another one leaves no gap when it grows over it. -/
theorem contains_extend {last range : LineRange} {line : Nat}
    (starts : last.startsBefore range = true) (reaching : last.reaches range = true) :
    (last.extend range).contains line = (last.contains line || range.contains line) := by
  have lastOrdered := last.ordered
  have rangeOrdered := range.ordered
  rw [startsBefore_iff] at starts
  rw [reaches_iff] at reaching
  rw [Bool.eq_iff_iff, Bool.or_eq_true, contains_iff, contains_iff, contains_iff, extend_first,
    extend_last]
  omega

end LineRange

namespace LineSet

/-- Some range contains the line; every range is tried. -/
def scan (ranges : List LineRange) (line : Nat) : Bool :=
  ranges.any fun range => range.contains line

@[simp] theorem scan_nil (line : Nat) : scan [] line = false := rfl

@[simp] theorem scan_cons (range : LineRange) (rest : List LineRange) (line : Nat) :
    scan (range :: rest) line = (range.contains line || scan rest line) := rfl

theorem scan_mergeFrom {last : LineRange} {rest : List LineRange} {line : Nat}
    (ascending : Ascending (last :: rest)) :
    scan (mergeFrom last rest) line = scan (last :: rest) line := by
  induction rest generalizing last with
  | nil => rfl
  | cons range rest inductionHypothesis =>
      rw [mergeFrom]
      split
      · rename_i reaching
        have starts := (List.pairwise_cons.1 ascending).1 range (by simp)
        rw [inductionHypothesis (ascending_extend ascending), scan_cons,
          contains_extend starts reaching, scan_cons, scan_cons, Bool.or_assoc]
      · rw [scan_cons, inductionHypothesis (List.pairwise_cons.1 ascending).2, scan_cons last]

theorem scan_merge {ranges : List LineRange} {line : Nat} (ascending : Ascending ranges) :
    scan (merge ranges) line = scan ranges line := by
  cases ranges with
  | nil => rfl
  | cons first rest => exact scan_mergeFrom ascending

theorem scan_sortedWith (range : LineRange) (ranges : List LineRange) (line : Nat) :
    scan (sortedWith range ranges) line = scan (range :: ranges) line := by
  have reordered : (sortedWith range ranges).Perm (range :: ranges) :=
    (List.mergeSort_perm _ _).trans (List.perm_append_singleton range ranges)
  exact reordered.any_eq

/-- One round of sorting and merging loses no line and adds none. -/
theorem scan_merge_sortedWith (range : LineRange) (ranges : List LineRange) (line : Nat) :
    scan (merge (sortedWith range ranges)) line = (range.contains line || scan ranges line) := by
  rw [scan_merge (ascending_sortedWith range ranges), scan_sortedWith, scan_cons]

/-- Ends ascend where starts and gaps do. -/
theorem partitioned_of_apart {ranges : List LineRange} (apart : ranges.Pairwise Before)
    (line : Nat) : Partitioned (fun range => decide (range.last.toNat < line)) ranges := by
  refine apart.imp ?_
  intro a b before endsBelow
  have := b.ordered
  rw [decide_eq_true_iff] at *
  unfold Before at before
  omega

/-- What lies apart from a range starts after the line that follows it. -/
theorem scan_rest_eq_false {range : LineRange} {rest : List LineRange} {line : Nat}
    (apart : (range :: rest).Pairwise Before) (near : line ≤ range.last.toNat + 1) :
    scan rest line = false := by
  rw [scan, List.any_eq_false]
  intro other member isContained
  have gap : range.last.toNat + 1 < other.first.toNat := (List.pairwise_cons.1 apart).1 other member
  have := (contains_iff.1 isContained).1
  omega

/-- Where ranges lie apart, the first that does not end below the line decides. -/
theorem find?_contains_eq_scan {ranges : List LineRange} (apart : ranges.Pairwise Before)
    (line : Nat) :
    (match ranges.find? fun range => !decide (range.last.toNat < line) with
      | some range => range.contains line
      | none => false) = scan ranges line := by
  induction ranges with
  | nil => rfl
  | cons range rest inductionHypothesis =>
      have tail := inductionHypothesis (List.pairwise_cons.1 apart).2
      by_cases endsBelow : range.last.toNat < line
      · have isOutside : range.contains line = false := by
          rw [← Bool.not_eq_true, contains_iff]
          omega
        simpa [endsBelow, isOutside] using tail
      · have restOutside : scan rest line = false := scan_rest_eq_false apart (by omega)
        simp [endsBelow, restOutside]

/-- The search by halving finds a line exactly where a scan of all ranges does. -/
theorem contains_eq_scan (set : LineSet) (line : Nat) :
    set.contains line = scan set.ranges line := by
  rw [contains, getElem?_partitionPoint (partitioned_of_apart set.apart line)]
  exact find?_contains_eq_scan set.apart line

@[simp] theorem contains_empty (line : Nat) : empty.contains line = false := by
  rw [contains_eq_scan, empty, scan_nil]

theorem contains_insertRange (a b : UInt64) (set : LineSet) (line : Nat) :
    (set.insertRange a b).contains line =
      ((between a b).contains line || set.contains line) := by
  rw [contains_eq_scan, contains_eq_scan, insertRange, scan_merge_sortedWith]

theorem contains_insert (added : UInt64) (set : LineSet) (line : Nat) :
    (set.insert added).contains line = true ↔ line = added.toNat ∨ set.contains line = true := by
  rw [insert, contains_insertRange, Bool.or_eq_true, contains_between, Nat.min_self, Nat.max_self]
  constructor
  · rintro (⟨above, below⟩ | isContained)
    · exact Or.inl (Nat.le_antisymm below above)
    · exact Or.inr isContained
  · rintro (rfl | isContained)
    · exact Or.inl ⟨Nat.le_refl _, Nat.le_refl _⟩
    · exact Or.inr isContained

theorem contains_insert_empty (added : UInt64) (line : Nat) :
    (insert added empty).contains line = (line == added.toNat) := by
  rw [Bool.eq_iff_iff, contains_insert, contains_empty, beq_iff_eq]
  simp

theorem contains_foldl_insert (lines : List UInt64) (set : LineSet) (line : UInt64) :
    (lines.foldl (fun set line => set.insert line) set).contains line.toNat = true ↔
      line ∈ lines ∨ set.contains line.toNat = true := by
  induction lines generalizing set with
  | nil => simp
  | cons added rest inductionHypothesis =>
      rw [List.foldl_cons, inductionHypothesis, contains_insert, UInt64.toNat_inj, List.mem_cons]
      exact or_left_comm.trans or_assoc.symm

theorem contains_ofList (lines : List UInt64) (line : UInt64) :
    (ofList lines).contains line.toNat = true ↔ line ∈ lines := by
  rw [ofList, contains_foldl_insert, contains_empty]
  simp

/-- One step of building a set of lines. -/
inductive Step where
  | insert (line : UInt64)
  | insertRange (a b : UInt64)
  /-- The set that was there before is given up. -/
  | collect (lines : List UInt64)

namespace Step

def apply (set : LineSet) : Step → LineSet
  | insert line => set.insert line
  | insertRange a b => set.insertRange a b
  | collect lines => ofList lines

def isCollection : Step → Bool
  | collect _ => true
  | _ => false

/-- The lines that the step names itself. -/
def Covers : Step → UInt64 → Prop
  | insert line, x => x = line
  | insertRange a b, x => min a b ≤ x ∧ x ≤ max a b
  | collect lines, x => x ∈ lines

theorem contains_apply (step : Step) (set : LineSet) (line : UInt64) :
    (step.apply set).contains line.toNat = true ↔
      step.Covers line ∨ (step.isCollection = false ∧ set.contains line.toNat = true) := by
  cases step with
  | insert added =>
      rw [apply, contains_insert, UInt64.toNat_inj]
      simp [Covers, isCollection]
  | insertRange a b =>
      rw [apply, contains_insertRange, Bool.or_eq_true, contains_between, Covers,
        UInt64.le_iff_toNat_le, UInt64.le_iff_toNat_le, toNat_min, toNat_max]
      simp [isCollection]
  | collect lines =>
      rw [apply, contains_ofList]
      simp [Covers, isCollection]

end Step

/-- The set after all steps, which start from no lines. -/
def run (steps : List Step) : LineSet := steps.foldl (fun set step => step.apply set) ∅

/-- The steps from the last collection on, or all of them. -/
def sinceCollection : List Step → List Step
  | [] => []
  | step :: rest => if rest.any Step.isCollection then sinceCollection rest else step :: rest

theorem sinceCollection_eq_self {steps : List Step}
    (none : steps.any Step.isCollection = false) : sinceCollection steps = steps := by
  cases steps with
  | nil => rfl
  | cons step rest =>
      rw [List.any_cons, Bool.or_eq_false_iff] at none
      rw [sinceCollection, none.2]
      rfl

theorem contains_foldl_apply (steps : List Step) (set : LineSet) (line : UInt64) :
    (steps.foldl (fun set step => step.apply set) set).contains line.toNat = true ↔
      (∃ step ∈ sinceCollection steps, step.Covers line) ∨
        (steps.any Step.isCollection = false ∧ set.contains line.toNat = true) := by
  induction steps generalizing set with
  | nil => simp [sinceCollection]
  | cons step rest inductionHypothesis =>
      rw [List.foldl_cons, inductionHypothesis, Step.contains_apply, sinceCollection]
      -- A later collection gives up this step and everything before it.
      by_cases collected : rest.any Step.isCollection = true
      · rw [if_pos collected, List.any_cons, collected]
        simp
      · rw [Bool.not_eq_true] at collected
        rw [if_neg (by simp [collected]), List.any_cons, collected,
          sinceCollection_eq_self collected]
        simp only [List.mem_cons, exists_eq_or_imp, Bool.or_false, true_and]
        exact or_left_comm.trans or_assoc.symm

theorem contains_run (steps : List Step) (line : UInt64) :
    (run steps).contains line.toNat = true ↔
      ∃ step ∈ sinceCollection steps, step.Covers line := by
  have nothing : (∅ : LineSet).contains line.toNat = false := contains_empty _
  rw [run, contains_foldl_apply, nothing]
  simp

/-- A line is contained exactly when a step since the last collection covers it: sorting and
merging keep the lines, the adjacency test does not wrap, and the search by halving misses
nothing. -/
theorem run_contains_exactly_covered (steps : List Step) (line : UInt64) :
    ((run steps).contains line.toNat = true ↔
      ∃ step ∈ sinceCollection steps, step.Covers line) ∧
    (∀ (range : LineRange) (ranges : List LineRange),
      scan (merge (sortedWith range ranges)) line.toNat =
        (range.contains line.toNat || scan ranges line.toNat)) ∧
    (∀ last range : LineRange,
      last.reaches range = true ↔ range.first.toNat ≤ last.last.toNat + 1) ∧
    (run steps).contains line.toNat = scan (run steps).ranges line.toNat :=
  ⟨contains_run steps line,
    fun range ranges => scan_merge_sortedWith range ranges line.toNat,
    fun _ _ => reaches_iff,
    contains_eq_scan (run steps) line.toNat⟩

end LineSet

end Listings
