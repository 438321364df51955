/-
This file states what is read from the front of a text, and what is left of it.
-/

import Listings.Proofs.Text.Pieces
import Listings.Text.Reading

namespace Listings.Text.Reading

variable {α β : Type} {accepts : Char → Bool} {wanted text : List Char}

/-- What comes next reads from what the first has left. -/
theorem run_bind_eq (first : Reading α) (next : α → Reading β) (text : List Char) :
    (first >>= next).run text = (first.run text).bind fun found => (next found.1).run found.2 := rfl

@[simp] theorem run_rest (text : List Char) : rest.run text = some (text, text) := rfl

@[simp] theorem run_peek (text : List Char) : peek.run text = some (text.head?, text) := rfl

@[simp] theorem run_takeWhile (accepts : Char → Bool) (text : List Char) :
    (takeWhile accepts).run text = some (text.takeWhile accepts, text.dropWhile accepts) := rfl

@[simp] theorem run_next (c : Char) (text : List Char) :
    next.run (c :: text) = some (c, text) := rfl

theorem run_takeWhile_append {taken : List Char} (accepted : ∀ c ∈ taken, accepts c = true)
    (ends : ∀ c ∈ text.head?, accepts c = false) :
    (takeWhile accepts).run (taken ++ text) = some (taken, text) := by
  rw [run_takeWhile, List.takeWhile_append_of_pos accepted, List.dropWhile_append_of_pos accepted]
  cases text with
  | nil => simp
  | cons c more =>
      have notAccepted : accepts c = false := ends c rfl
      simp [notAccepted]

theorem run_accept_append (wanted text : List Char) :
    (accept wanted).run (wanted ++ text) = some (true, text) := by
  have dropped : dropStart? wanted (wanted ++ text) = some text := dropStart?_eq_some_iff.2 rfl
  rw [accept, run_bind_eq, run_rest, Option.bind_some, dropped]
  rfl

@[simp] theorem run_accept_cons (c : Char) (text : List Char) :
    (accept [c]).run (c :: text) = some (true, text) :=
  run_accept_append [c] text

theorem run_accept_of_not_prefix (otherwise : ¬ wanted <+: text) :
    (accept wanted).run text = some (false, text) := by
  have undropped : dropStart? wanted text = none := by
    rw [Option.eq_none_iff_forall_ne_some]
    intro after dropped
    exact otherwise ⟨after, (dropStart?_eq_some_iff.1 dropped).symm⟩
  rw [accept, run_bind_eq, run_rest, Option.bind_some, undropped]
  rfl

/-- What starts with another character is not gone past. -/
theorem run_accept_of_head_ne {c : Char} (different : text.head? ≠ some c) :
    (accept (c :: wanted)).run text = some (false, text) := by
  refine run_accept_of_not_prefix ?_
  rintro ⟨after, rfl⟩
  exact different rfl

@[simp] theorem run_expect_cons (c : Char) (text : List Char) :
    (expect [c]).run (c :: text) = some ((), text) := by
  have dropped : dropStart? [c] (c :: text) = some text := dropStart?_eq_some_iff.2 rfl
  rw [expect, run_bind_eq, run_rest, Option.bind_some, dropped]
  rfl

end Listings.Text.Reading
