/-
This file says what steps that report on their way make together, and what all of them report.
-/

import Listings.Notice

namespace Listings.Reported

variable {α β : Type}

@[simp] theorem value_bind (first : Reported α) (next : α → Reported β) :
    (first >>= next).value = (next first.value).value := rfl

theorem notices_bind (first : Reported α) (next : α → Reported β) :
    (first >>= next).notices = first.notices ++ (next first.value).notices := rfl

theorem value_foldlM (step : β → α → Reported β) (items : List α) (start : β) :
    (items.foldlM step start).value =
      items.foldl (fun value item => (step value item).value) start := by
  induction items generalizing start with
  | nil => rfl
  | cons item rest inductionHypothesis =>
      rw [List.foldlM_cons, value_bind, inductionHypothesis, List.foldl_cons]

/-- Where a step reports the same whatever came before it, the reports stand one after another. -/
theorem notices_foldlM {step : β → α → Reported β} {reports : α → List Notice}
    (each : ∀ value item, (step value item).notices = reports item) (items : List α) (start : β) :
    (items.foldlM step start).notices = items.flatMap reports := by
  induction items generalizing start with
  | nil => rfl
  | cons item rest inductionHypothesis =>
      rw [List.foldlM_cons, notices_bind, each, inductionHypothesis, List.flatMap_cons]

/-- What every step keeps holds of what all of them make. -/
theorem foldlM_keeps {holds : β → Prop} {step : β → α → Reported β} {items : List α}
    (keeps : ∀ item ∈ items, ∀ value, holds value → holds (step value item).value) {start : β}
    (holdsStart : holds start) : holds (items.foldlM step start).value := by
  induction items generalizing start with
  | nil => exact holdsStart
  | cons item rest inductionHypothesis =>
      obtain ⟨keepsFirst, keepsRest⟩ := List.forall_mem_cons.1 keeps
      rw [List.foldlM_cons, value_bind]
      exact inductionHypothesis keepsRest (keepsFirst start holdsStart)

end Listings.Reported
