/-
This file finds the end of a leading run by halving.
-/

namespace Listings

variable {α : Type}

/-- Looks for the end of the run in the window from `low` to `high`. -/
def partitionPointWithin (holds : α → Bool) (items : List α) (low high : Nat)
    (inside : high ≤ items.length) : Nat :=
  if isOpen : low < high then
    let middle := low + (high - low) / 2
    have middleInside : middle < items.length := by omega
    if holds items[middle] then partitionPointWithin holds items (middle + 1) high inside
    else partitionPointWithin holds items low middle (by omega)
  else low
termination_by high - low

/-- How many items stand before the first one that fails, if all after it fail too. -/
def partitionPoint (holds : α → Bool) (items : List α) : Nat :=
  partitionPointWithin holds items 0 items.length (Nat.le_refl _)

/-- No item holds after one that does not. -/
def Partitioned (holds : α → Bool) (items : List α) : Prop :=
  items.Pairwise fun before after => holds after = true → holds before = true

theorem holds_getElem_iff {holds : α → Bool} {items : List α}
    (partitioned : Partitioned holds items) {index : Nat} (inside : index < items.length) :
    holds items[index] = true ↔ index < (items.takeWhile holds).length := by
  induction items generalizing index with
  | nil => simp at inside
  | cons head rest inductionHypothesis =>
      have headFirst := (List.pairwise_cons.1 partitioned).1
      have restPartitioned : Partitioned holds rest := (List.pairwise_cons.1 partitioned).2
      by_cases headHolds : holds head = true
      · cases index with
        | zero => simp [headHolds]
        | succ index =>
            have tail := inductionHypothesis restPartitioned (Nat.lt_of_succ_lt_succ inside)
            simpa [headHolds] using tail
      · cases index with
        | zero => simp [headHolds]
        | succ index =>
            have restInside : index < rest.length := Nat.lt_of_succ_lt_succ inside
            have member : rest[index] ∈ rest := List.getElem_mem _
            have fails : ¬ holds rest[index] = true := fun holdsLater =>
              headHolds (headFirst _ member holdsLater)
            simp [headHolds, fails]

/-- The window always keeps the end of the run. -/
theorem partitionPointWithin_eq {holds : α → Bool} {items : List α}
    (partitioned : Partitioned holds items) {low high : Nat} {inside : high ≤ items.length}
    (above : low ≤ (items.takeWhile holds).length) (below : (items.takeWhile holds).length ≤ high) :
    partitionPointWithin holds items low high inside = (items.takeWhile holds).length := by
  fun_induction partitionPointWithin holds items low high inside with
  | case1 low high inside isOpen middle middleInside holdsMiddle inductionHypothesis =>
      have after := (holds_getElem_iff partitioned middleInside).1 holdsMiddle
      exact inductionHypothesis after below
  | case2 low high inside isOpen middle middleInside failsMiddle inductionHypothesis =>
      have before := mt (holds_getElem_iff partitioned middleInside).2 failsMiddle
      exact inductionHypothesis above (Nat.le_of_not_lt before)
  | case3 low high inside isClosed => omega

theorem partitionPoint_eq {holds : α → Bool} {items : List α}
    (partitioned : Partitioned holds items) :
    partitionPoint holds items = (items.takeWhile holds).length :=
  partitionPointWithin_eq partitioned (Nat.zero_le _) (List.takeWhile_prefix _).length_le

/-- The item at the end of the run is the first that fails. -/
theorem getElem?_partitionPoint {holds : α → Bool} {items : List α}
    (partitioned : Partitioned holds items) :
    items[partitionPoint holds items]? = items.find? fun item => !holds item := by
  rw [partitionPoint_eq partitioned]
  clear partitioned
  induction items with
  | nil => rfl
  | cons head rest inductionHypothesis =>
      by_cases headHolds : holds head = true
      · simp [headHolds, inductionHypothesis]
      · simp [headHolds]

end Listings
