/-
This file says what is found under a name in a list of entries with names.
-/

namespace Listings

variable {α : Type}

theorem lookup_cons_eq_ite (name : String) (head : String × α) (rest : List (String × α)) :
    (head :: rest).lookup name = if name = head.1 then some head.2 else rest.lookup name := by
  by_cases same : name = head.1
  · rw [if_pos same, List.lookup_cons, beq_iff_eq.2 same]
  · rw [if_neg same, List.lookup_cons, beq_eq_false_iff_ne.2 same]

theorem lookup_filter_ne (name other : String) (entries : List (String × α)) :
    (entries.filter fun entry => entry.1 ≠ name).lookup other =
      if other = name then none else entries.lookup other := by
  induction entries with
  | nil => simp
  | cons head rest inductionHypothesis =>
      rw [List.filter_cons, lookup_cons_eq_ite]
      by_cases isErased : head.1 = name
      · rw [if_neg (by simpa using isErased), inductionHypothesis, ← isErased]
        by_cases isHead : other = head.1
        · rw [if_pos isHead, if_pos isHead]
        · rw [if_neg isHead, if_neg isHead, if_neg isHead]
      · rw [if_pos (by simpa using isErased), lookup_cons_eq_ite, inductionHypothesis]
        by_cases isHead : other = head.1
        · rw [if_pos isHead, if_pos isHead, if_neg (isHead ▸ isErased)]
        · rw [if_neg isHead, if_neg isHead]

theorem exists_lookup_eq_some_iff {name : String} {entries : List (String × α)} :
    (∃ value, entries.lookup name = some value) ↔ name ∈ entries.map Prod.fst := by
  induction entries with
  | nil => simp
  | cons head rest inductionHypothesis =>
      rw [lookup_cons_eq_ite, List.map_cons, List.mem_cons, ← inductionHypothesis]
      by_cases same : name = head.1
      · simp [same]
      · simp [same]

end Listings
