/-
This file shows that sets of lines with the same lines have the same ranges, and few of them.
-/

import Mathlib.Algebra.GroupWithZero.Nat
import Mathlib.Data.List.Chain
import Listings.Proofs.LineSet.Coverage

namespace Listings.LineSet

open LineRange

/-- Only the numbers of indices are contained. -/
theorem lt_of_scan {ranges : List LineRange} {line : Nat} (isContained : scan ranges line = true) :
    line < UInt64.size := by
  obtain ⟨range, _, inRange⟩ := List.any_eq_true.1 isContained
  exact Nat.lt_of_le_of_lt (contains_iff.1 inRange).2 range.last.toNat_lt

theorem scan_first (range : LineRange) (rest : List LineRange) :
    scan (range :: rest) range.first.toNat = true := by
  have isContained : range.contains range.first.toNat = true :=
    contains_iff.2 ⟨Nat.le_refl _, range.ordered⟩
  rw [scan_cons, isContained, Bool.true_or]

/-- No line stands before the first range. -/
theorem first_le_of_scan {range : LineRange} {rest : List LineRange} {line : Nat}
    (apart : (range :: rest).Pairwise Before) (isContained : scan (range :: rest) line = true) :
    range.first.toNat ≤ line := by
  refine Nat.le_of_not_lt fun below => ?_
  have ordered := range.ordered
  have restOutside : scan rest line = false := scan_rest_eq_false apart (by omega)
  rw [scan_cons, restOutside, Bool.or_false] at isContained
  exact Nat.not_le_of_lt below (contains_iff.1 isContained).1

/-- The line after the first range is not contained, so an equal set ends no later there. -/
theorem last_le_of_same {a b : LineRange} {as bs : List LineRange}
    (apart : (a :: as).Pairwise Before) (starts : b.first.toNat ≤ a.first.toNat)
    (same : ∀ line, scan (a :: as) line = scan (b :: bs) line) :
    b.last.toNat ≤ a.last.toNat := by
  refine Nat.le_of_not_lt fun longer => ?_
  have ordered := a.ordered
  have inSecond : b.contains (a.last.toNat + 1) = true := contains_iff.2 ⟨by omega, by omega⟩
  have outsideRest := scan_rest_eq_false apart (Nat.le_refl (a.last.toNat + 1))
  have contained := same (a.last.toNat + 1)
  rw [scan_cons, scan_cons, outsideRest, inSecond, Bool.or_false, Bool.true_or,
    contains_iff] at contained
  omega

/-- Ranges that lie apart are determined by the lines in them. -/
theorem ranges_eq_of_same {first second : List LineRange} (firstApart : first.Pairwise Before)
    (secondApart : second.Pairwise Before) (same : ∀ line, scan first line = scan second line) :
    first = second := by
  induction first generalizing second with
  | nil =>
      cases second with
      | nil => rfl
      | cons b bs =>
          have contained := scan_first b bs
          rw [← same] at contained
          contradiction
  | cons a as inductionHypothesis =>
      cases second with
      | nil =>
          have contained := scan_first a as
          rw [same] at contained
          contradiction
      | cons b bs =>
          have low : b.first.toNat ≤ a.first.toNat :=
            first_le_of_scan secondApart ((same _).symm.trans (scan_first a as))
          have high : a.first.toNat ≤ b.first.toNat :=
            first_le_of_scan firstApart ((same _).trans (scan_first b bs))
          have firstSame : a.first = b.first := UInt64.toNat_inj.1 (Nat.le_antisymm high low)
          have lastSame : a.last = b.last := UInt64.toNat_inj.1 (Nat.le_antisymm
            (last_le_of_same secondApart high fun line => (same line).symm)
            (last_le_of_same firstApart low same))
          have headSame : a = b := by
            cases a
            cases b
            simp_all
          subst headSame
          have restSame : ∀ line, scan as line = scan bs line := by
            intro line
            by_cases near : line ≤ a.last.toNat + 1
            · rw [scan_rest_eq_false firstApart near, scan_rest_eq_false secondApart near]
            · have outside : a.contains line = false := by
                rw [← Bool.not_eq_true, contains_iff]
                omega
              simpa [outside] using same line
          rw [inductionHypothesis (List.pairwise_cons.1 firstApart).2
            (List.pairwise_cons.1 secondApart).2 restSame]

theorem eq_iff_same_contains (first second : LineSet) :
    first = second ↔
      ∀ line : UInt64, first.contains line.toNat = second.contains line.toNat := by
  constructor
  · rintro rfl line
    rfl
  · intro same
    have sameScan : ∀ line, scan first.ranges line = scan second.ranges line := by
      intro line
      by_cases small : line < UInt64.size
      · have sameLine := same (UInt64.ofNatLT line small)
        rwa [UInt64.toNat_ofNatLT, contains_eq_scan, contains_eq_scan] at sameLine
      · rw [Bool.eq_iff_iff]
        exact iff_of_false (mt lt_of_scan small) (mt lt_of_scan small)
    have sameRanges := ranges_eq_of_same first.apart second.apart sameScan
    cases first
    cases second
    simp_all

theorem isEmpty_iff (set : LineSet) :
    set.isEmpty = true ↔ ∀ line : UInt64, set.contains line.toNat = false := by
  rw [isEmpty, List.isEmpty_iff]
  constructor
  · intro noRanges line
    rw [contains_eq_scan, noRanges, scan_nil]
  · intro nothing
    cases ranges : set.ranges with
    | nil => rfl
    | cons range rest =>
        have outside := nothing range.first
        rw [contains_eq_scan, ranges, scan_first] at outside
        contradiction

theorem length_mergeFrom (last : LineRange) (rest : List LineRange) :
    (mergeFrom last rest).length ≤ rest.length + 1 := by
  induction rest generalizing last with
  | nil => exact Nat.le_refl _
  | cons range rest inductionHypothesis =>
      rw [mergeFrom, List.length_cons]
      split
      · exact Nat.le_succ_of_le (inductionHypothesis _)
      · exact Nat.succ_le_succ (inductionHypothesis _)

theorem length_merge (ranges : List LineRange) : (merge ranges).length ≤ ranges.length := by
  cases ranges with
  | nil => exact Nat.le_refl _
  | cons first rest => exact length_mergeFrom first rest

theorem length_insertRange (a b : UInt64) (set : LineSet) :
    (set.insertRange a b).ranges.length ≤ set.ranges.length + 1 := by
  refine Nat.le_trans (length_merge _) (Nat.le_of_eq ?_)
  rw [sortedWith, List.length_mergeSort, List.length_append, List.length_singleton]

/-- Where every step adds few ranges, all of them together do not add more. -/
theorem length_foldl {α : Type} {step : LineSet → α → LineSet} {size : α → Nat}
    (grows : ∀ set item, (step set item).ranges.length ≤ set.ranges.length + size item)
    (items : List α) (set : LineSet) :
    (items.foldl step set).ranges.length ≤ set.ranges.length + (items.map size).sum := by
  induction items generalizing set with
  | nil => exact Nat.le_refl _
  | cons item rest inductionHypothesis =>
      have grown := grows set item
      have further := inductionHypothesis (step set item)
      rw [List.foldl_cons, List.map_cons, List.sum_cons]
      omega

theorem length_ofList (lines : List UInt64) : (ofList lines).ranges.length ≤ lines.length := by
  have grown := length_foldl (fun set line => length_insertRange line line set) lines empty
  rwa [List.map_const', List.sum_replicate_nat, Nat.mul_one, empty, List.length_nil,
    Nat.zero_add] at grown

/-- How many lines or ranges the step puts in. -/
def Step.size : Step → Nat
  | insert _ | insertRange .. => 1
  | collect lines => lines.length

theorem Step.length_apply (step : Step) (set : LineSet) :
    (step.apply set).ranges.length ≤ set.ranges.length + step.size := by
  cases step with
  | insert line => exact length_insertRange line line set
  | insertRange a b => exact length_insertRange a b set
  | collect lines => exact Nat.le_trans (length_ofList lines) (Nat.le_add_left _ _)

theorem length_run (steps : List Step) :
    (run steps).ranges.length ≤ (steps.map Step.size).sum := by
  have grown := length_foldl (fun set step => Step.length_apply step set) steps empty
  rwa [empty, List.length_nil, Nat.zero_add] at grown

/-- Sorting and merging leave a gap between any two neighbours. -/
theorem isChain_merge_sortedWith (range : LineRange) (ranges : List LineRange) :
    (merge (sortedWith range ranges)).IsChain Before :=
  (merge_apart (ascending_sortedWith range ranges)).isChain

theorem run_eq_iff_covers (first second : List Step) :
    run first = run second ↔ ∀ line : UInt64,
      (∃ step ∈ sinceCollection first, step.Covers line) ↔
        ∃ step ∈ sinceCollection second, step.Covers line := by
  rw [eq_iff_same_contains]
  refine forall_congr' fun line => ?_
  rw [Bool.eq_iff_iff, contains_run, contains_run]

/-- The ranges depend on the lines alone: between any two neighbours a line is missing, equal
lines give equal sets, and there are no more ranges than steps, a collection counted by its
lines. -/
theorem run_has_canonical_ranges (steps : List Step) :
    ((∀ range ∈ (run steps).ranges, range.first ≤ range.last) ∧
      (run steps).ranges.IsChain fun previous next =>
        previous.last.toNat + 1 < next.first.toNat) ∧
    (∀ (range : LineRange) (ranges : List LineRange),
      (merge (sortedWith range ranges)).IsChain Before) ∧
    (∀ other : List Step, run steps = run other ↔
      ∀ line : UInt64, (run steps).contains line.toNat = (run other).contains line.toNat) ∧
    (∀ other : List Step, run steps = run other ↔ ∀ line : UInt64,
      (∃ step ∈ sinceCollection steps, step.Covers line) ↔
        ∃ step ∈ sinceCollection other, step.Covers line) ∧
    ((run steps).isEmpty = true ↔
      ∀ line : UInt64, (run steps).contains line.toNat = false) ∧
    (run steps).ranges.length ≤ (steps.map Step.size).sum := by
  refine ⟨⟨?_, ?_⟩, isChain_merge_sortedWith, ?_, run_eq_iff_covers steps, ?_, length_run steps⟩
  · intro range _
    exact range.first_le_last
  · exact (run steps).apart.isChain
  · intro other
    exact eq_iff_same_contains (run steps) (run other)
  · exact isEmpty_iff (run steps)

example : (run [.insertRange 6 4, .insert 3, .insert 10, .insertRange 5 8]).ranges.map
    (fun range => (range.first, range.last)) = [(3, 8), (10, 10)] := by cbv

end Listings.LineSet
